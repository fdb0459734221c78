/-!
# Tables from names to values

A table holds one value for each of finitely many names. Its entries stand in
ascending order of their names, compared code point by code point, which is also
the order of their bytes in UTF-8. The order is part of the type: two tables
with the same values under the same names are therefore equal, whatever the
order in which they were filled.

The laws below say how `insert` changes what `find?` answers, and that a table is
what its own entries fill. Nothing here says how fast a search is; the tables are as
small as the rules that mention them.
-/

namespace WidgetAudit

/-- A finite map from names to values, kept in ascending order of the names. -/
structure NameTable (α : Type) where
  entries : List (String × α)
  ascending : entries.Pairwise fun earlier later => earlier.1 < later.1

namespace NameTable

variable {α : Type}

instance [DecidableEq α] : DecidableEq (NameTable α) := fun first second =>
  if same : first.entries = second.entries then
    isTrue (by cases first; cases second; cases same; rfl)
  else
    isFalse (fun equal => same (equal ▸ rfl))

/-- The table without names. -/
def empty : NameTable α := ⟨[], .nil⟩

instance : Inhabited (NameTable α) := ⟨empty⟩

/-- The number of names. -/
def size (table : NameTable α) : Nat := table.entries.length

/-- Whether no name has a value. -/
def isEmpty (table : NameTable α) : Bool := table.entries.isEmpty

/-- The names, in ascending order. -/
def names (table : NameTable α) : List String := table.entries.map Prod.fst

/-- The value under a name, if it has one. -/
def find? (table : NameTable α) (name : String) : Option α :=
  (table.entries.find? fun entry => entry.1 == name).map Prod.snd

/-- Whether a name has a value. -/
def contains (table : NameTable α) (name : String) : Bool := (table.find? name).isSome

/-- Put an entry where the order wants it, in place of one with the same name. -/
def insertEntry (name : String) (value : α) : List (String × α) → List (String × α)
  | [] => [(name, value)]
  | entry :: later =>
    if name < entry.1 then (name, value) :: entry :: later
    else if name = entry.1 then (name, value) :: later
    else entry :: insertEntry name value later

/-- Every entry after an insertion is the new one or was there before. -/
theorem mem_insertEntry {name : String} {value : α} {entry : String × α}
    {entries : List (String × α)} (member : entry ∈ insertEntry name value entries) :
    entry = (name, value) ∨ entry ∈ entries := by
  induction entries with
  | nil => simpa [insertEntry] using member
  | cons first later ih =>
    rw [insertEntry] at member
    split at member
    · simpa using member
    · split at member
      · simp only [List.mem_cons] at member ⊢
        exact member.imp_right Or.inr
      · simp only [List.mem_cons] at member ⊢
        rcases member with same | inLater
        · exact .inr (.inl same)
        · exact (ih inLater).imp_right Or.inr

/-- An insertion keeps the names ascending. -/
theorem insertEntry_ascending (name : String) (value : α) {entries : List (String × α)}
    (ascending : entries.Pairwise fun earlier later => earlier.1 < later.1) :
    (insertEntry name value entries).Pairwise fun earlier later => earlier.1 < later.1 := by
  induction entries with
  | nil => simp [insertEntry]
  | cons first later ih =>
    obtain ⟨below, rest⟩ := List.pairwise_cons.mp ascending
    rw [insertEntry]
    split
    · rename_i smaller
      refine List.pairwise_cons.mpr ⟨fun entry member => ?_, ascending⟩
      rcases List.mem_cons.mp member with same | inLater
      · exact same ▸ smaller
      · exact String.lt_trans smaller (below entry inLater)
    · split
      · rename_i same
        exact List.pairwise_cons.mpr ⟨fun entry member => same ▸ below entry member, rest⟩
      · rename_i notSmaller notSame
        have larger : first.1 < name := by
          rcases String.le_total name first.1 with le | le
          · exact absurd (String.le_antisymm le (String.not_lt.mp notSmaller)) notSame
          · exact Classical.byContradiction fun notLess =>
              notSame (String.le_antisymm (String.not_lt.mp notLess) le)
        refine List.pairwise_cons.mpr ⟨fun entry member => ?_, ih rest⟩
        rcases mem_insertEntry member with same | inLater
        · exact same ▸ larger
        · exact below entry inLater

/-- Give a name a value, in place of the one that it had. -/
def insert (table : NameTable α) (name : String) (value : α) : NameTable α :=
  ⟨insertEntry name value table.entries, insertEntry_ascending name value table.ascending⟩

/-- Insert the entries in their order, so that of equal names the last one counts. -/
def insertAll (table : NameTable α) (entries : List (String × α)) : NameTable α :=
  entries.foldl (fun grown entry => grown.insert entry.1 entry.2) table

/-- The table filled with the given entries, in their order. -/
def ofList (entries : List (String × α)) : NameTable α := empty.insertAll entries

/-- Nothing is found in the table without names. -/
@[simp] theorem find?_empty (name : String) : (empty : NameTable α).find? name = none := rfl

/-- After an insertion the name has the new value and the other names are untouched. -/
theorem find?_insert (table : NameTable α) (name other : String) (value : α) :
    (table.insert name value).find? other =
      if name = other then some value else table.find? other := by
  obtain ⟨entries, ascending⟩ := table
  simp only [insert, find?]
  clear ascending
  induction entries with
  | nil => by_cases same : name = other <;> simp [insertEntry, same]
  | cons first later ih =>
    rw [insertEntry]
    split
    · by_cases same : name = other <;> simp [List.find?_cons, same]
    · split
      · rename_i same
        by_cases wanted : name = other
        · simp [wanted]
        · simp [wanted, ← same]
      · rename_i notSame
        by_cases wanted : first.1 = other
        · have differs : name ≠ other := fun equal => notSame (equal.trans wanted.symm)
          simp [wanted, differs]
        · simpa [List.find?_cons, wanted] using ih

/-- A name above all others goes to the end. -/
theorem insertEntry_last {name : String} (value : α) {entries : List (String × α)}
    (above : ∀ entry ∈ entries, entry.1 < name) :
    insertEntry name value entries = entries ++ [(name, value)] := by
  induction entries with
  | nil => rfl
  | cons first later ih =>
    have firstBelow : first.1 < name := above first List.mem_cons_self
    have notBelow : ¬ name < first.1 := String.lt_asymm firstBelow
    have differs : name ≠ first.1 := by
      intro same
      rw [same] at firstBelow
      exact String.lt_irrefl _ firstBelow
    rw [insertEntry, if_neg notBelow, if_neg differs,
      ih fun entry member => above entry (List.mem_cons_of_mem _ member), List.cons_append]

/-- Entries that go on ascending are put behind those of the table. -/
theorem insertAll_entries (table : NameTable α) {others : List (String × α)}
    (ascending : (table.entries ++ others).Pairwise fun earlier later => earlier.1 < later.1) :
    (table.insertAll others).entries = table.entries ++ others := by
  induction others generalizing table with
  | nil => simp [insertAll]
  | cons entry later ih =>
    have above : ∀ other ∈ table.entries, other.1 < entry.1 := fun other member =>
      (List.pairwise_append.mp ascending).2.2 other member entry List.mem_cons_self
    have inserted : (table.insert entry.1 entry.2).entries = table.entries ++ [entry] :=
      insertEntry_last entry.2 above
    have step := ih (table.insert entry.1 entry.2)
      (by rw [inserted, List.append_assoc]; exact ascending)
    rw [inserted, List.append_assoc] at step
    exact step

/-- A table is filled again by its own entries. -/
theorem ofList_entries (table : NameTable α) : ofList table.entries = table := by
  have same : (ofList table.entries).entries = table.entries :=
    insertAll_entries empty table.ascending
  cases table
  generalize ofList _ = filled at same
  cases filled
  cases same
  rfl

end NameTable

end WidgetAudit
