import WidgetAudit.Proofs.Expr.Rereading
import WidgetAudit.Proofs.Grammar.Clauses

/-!
# Printed details and guards

The printer leaves out the block of the details and the line of the guard if there is nothing
to write in them. Either way the reader stands in front of the line break that ends the part,
so the part behind it finds the same text. A key is printed without quotes exactly if it is an
identifier, which is how the reader tells the two kinds apart. Between two entries the printer
writes no comma, although the reader would take one.
-/

namespace WidgetAudit.Grammar

open Reader

/-- A key needs no quotes exactly if it is an identifier. -/
theorem isBareKey_toList (key : String) : Rule.isBareKey key.toList = isIdentifier key := by
  unfold Rule.isBareKey isIdentifier
  cases key.toList <;> rfl

/-- A printed key begins with a letter, an underscore or a quote. -/
theorem key_opens (key : String) :
    ∃ first later, Rule.writtenKey key.toList = first :: later ∧
      (isNameStart first = true ∨ first = '"') := by
  unfold Rule.writtenKey
  split
  · rename_i bare
    rw [isBareKey_toList] at bare
    obtain ⟨first, later, form, start⟩ := starts_of_isIdentifier bare
    exact ⟨first, later, form, .inl start⟩
  · exact ⟨'"', _, rfl, .inr rfl⟩

/-- A printed key is solid and no comma. -/
theorem key_solid (key : String) (rest : List Char) :
    IsSolid (Rule.writtenKey key.toList ++ rest) ∧
      Avoids (· == ',') (Rule.writtenKey key.toList ++ rest) := by
  obtain ⟨first, others, form, opens⟩ := key_opens key
  rw [form, List.cons_append]
  rcases opens with start | rfl
  · exact ⟨isSolid_of_isNameStart start _, avoids_other start (by decide) _⟩
  · exact ⟨isSolid_cons rfl _, avoids_cons rfl _⟩

/-- A key is read with or without quotes. -/
theorem read_key (key : String) (later : List Char) :
    (identifier <|> quoted).read (Rule.writtenKey key.toList ++ ':' :: later) =
      .ok (key, ':' :: later) := by
  unfold Rule.writtenKey
  split
  · rename_i bare
    rw [isBareKey_toList] at bare
    exact read_orElse (read_identifier bare (endsName_colon later)) _
  · have noName : identifier.Declines (Quoted.written key.toList ++ ':' :: later) :=
      declines_identifier (avoids_cons rfl _)
    rw [noName.read_orElse, read_quoted]

/-! ### Entries -/

/-- What the printer puts in front of an entry. -/
def entryGap : List Char := '\n' :: "        ".toList

/-- What the printer puts in front of the closing brace of the details. -/
def closingGap : List Char := '\n' :: "    ".toList

/-- Both are gaps. -/
theorem isGap_entry : IsGap entryGap := rfl

/-- What stands in front of the closing brace is one. -/
theorem isGap_closing : IsGap closingGap := rfl

/-- The text behind an entry: the others and the closing brace. -/
def behindEntry (others : List (String × String)) (later : List Char) : List Char :=
  '\n' :: (others.flatMap Rule.writtenDetail ++ ("    \x7d".toList ++ later))

/-- The first of the others with its own gap, and what stands behind it. -/
theorem behindEntry_cons (entry : String × String) (others : List (String × String))
    (later : List Char) :
    behindEntry (entry :: others) later = entryGap ++ (Rule.writtenKey entry.1.toList ++
      ':' :: ' ' :: (Quoted.written entry.2.toList ++ behindEntry others later)) := by
  have colon : ": ".toList = [':', ' '] := rfl
  unfold behindEntry entryGap
  rw [List.flatMap_cons]
  unfold Rule.writtenDetail
  simp only [List.append_assoc, List.cons_append, List.nil_append, colon]

/-- No comma follows an entry. -/
theorem declines_comma (others : List (String × String)) (later : List Char) :
    (sign ',').Declines (behindEntry others later) := by
  cases others with
  | nil =>
    have solid : IsSolid ('}' :: later) := isSolid_cons rfl later
    have skipped : layout.read (closingGap ++ '}' :: later) = .ok ((), '}' :: later) :=
      read_layout isGap_closing solid
    exact declines_sign skipped (avoids_cons rfl later)
  | cons entry others =>
    obtain ⟨solid, noComma⟩ := key_solid entry.1
      (':' :: ' ' :: (Quoted.written entry.2.toList ++ behindEntry others later))
    rw [behindEntry_cons]
    exact declines_sign (read_layout isGap_entry solid) noComma

/-- One entry is read up to the end of its line. -/
theorem read_detail (entry : String × String) (others : List (String × String))
    (later : List Char) :
    detail.read (behindEntry (entry :: others) later) =
      .ok (entry, behindEntry others later) := by
  have colonSolid : ∀ rest, IsSolid (':' :: rest) := isSolid_cons rfl
  have valueRead : (do sign ':'; layout; quoted : Reader String).read
      (':' :: ' ' :: (Quoted.written entry.2.toList ++ behindEntry others later)) =
      .ok (entry.2, behindEntry others later) := by
    rw [read_bind (read_sign (read_layout_solid (colonSolid _))),
      read_bind (read_layout_space (isSolid_quoted _ _)), read_quoted]
  rw [behindEntry_cons, detail, read_bind (read_layout isGap_entry (key_solid entry.1 _).1),
    read_bind (read_key entry.1 _), read_bind (read_remarking (read_commit valueRead) _),
    read_map (declines_comma others later).read_optional]

/-- Every entry is read, up to the closing brace. -/
theorem read_entries (entries : List (String × String)) (later : List Char) :
    (many detail consumes_detail).read (behindEntry entries later) =
      .ok (entries, behindEntry [] later) := by
  induction entries with
  | nil =>
    have solid : IsSolid ('}' :: later) := isSolid_cons rfl later
    have noName : identifier.Declines ('}' :: later) :=
      declines_identifier (avoids_cons rfl later)
    have noQuote : quoted.Declines ('}' :: later) := declines_quoted (avoids_cons rfl later)
    have ends : detail.Declines (closingGap ++ '}' :: later) :=
      declines_bind_next (read_layout isGap_closing solid) ((noName.orElse noQuote).bind _)
    exact ends.read_many consumes_detail
  | cons entry others inductionHypothesis =>
    exact read_many_cons consumes_detail (read_detail entry others later) inductionHypothesis

/-! ### Parts that may be missing -/

/-- Printed details are read back, also if they are left out. -/
theorem read_writtenDetails (known : NameTable String) {later : List Char}
    (declines : details.Declines ('\n' :: later)) :
    ∃ found, (optional details).read ('\n' :: (Rule.writtenDetails known ++ later)) =
      .ok (found, '\n' :: later) ∧ found.getD .empty = known := by
  unfold Rule.writtenDetails
  split
  · rename_i empty
    have noEntries : known.entries = [] := List.isEmpty_iff.mp empty
    refine ⟨none, declines.read_optional, ?_⟩
    rw [← known.ofList_entries, noEntries]
    rfl
  · have form : '\n' :: ("    meta \x7b\n".toList ++ known.entries.flatMap Rule.writtenDetail ++
        "    \x7d\n".toList ++ later) = closingGap ++ ("meta".toList ++ ' ' :: '{' ::
          behindEntry known.entries ('\n' :: later)) := by
      have head : "    meta \x7b\n".toList =
          "    ".toList ++ "meta".toList ++ [' ', '\x7b', '\n'] := rfl
      have foot : "    \x7d\n".toList = "    \x7d".toList ++ ['\n'] := rfl
      simp only [behindEntry, closingGap, List.append_assoc, List.cons_append, List.nil_append,
        head, foot]
    have opened : (sign '{').read (' ' :: '{' :: behindEntry known.entries ('\n' :: later)) =
        .ok ((), behindEntry known.entries ('\n' :: later)) :=
      read_sign (read_layout_space (isSolid_cons rfl _))
    have closed : (sign '}').read (behindEntry [] ('\n' :: later)) = .ok ((), '\n' :: later) :=
      read_sign (read_layout isGap_closing (isSolid_cons rfl _))
    refine ⟨some known, read_optional ?_, rfl⟩
    have wordSolid : IsSolid ("meta".toList ++ ' ' :: '{' ::
        behindEntry known.entries ('\n' :: later)) := isSolid_of_isIdentifier (by decide) _
    rw [form, details, read_bind (read_layout isGap_closing wordSolid),
      read_bind (read_keyword (by decide) (endsName_space _))]
    refine read_commit ?_
    rw [read_bind opened, read_bind (read_entries known.entries _), read_map closed,
      known.ofList_entries]

variable [RegexEngine]

/-- A printed clause is read back, as what its expression is read back as. -/
theorem read_writtenClause {depth : Nat} {gap following : List Char}
    (blank : IsGap gap) (word : String)
    (isName : isIdentifier word = true) {expr : Expr} (writable : expr.isWritable = true)
    (fits : expr.nesting ≤ depth) (follows : Follows 0 following) :
    (clause depth word).read
        (gap ++ (word.toList ++ ':' :: ' ' :: (expr.written ++ following))) =
      .ok (expr.reread, following) := by
  have meaning : (Rendering.ofWritten expr).expr = expr.reread := Rendering.expr_ofWritten expr
  have rows : (Rendering.ofWritten expr).longestRow ≤ signLimit :=
    Nat.le_trans (Rendering.longestRow_ofWritten expr) (by decide)
  have renderingFits : (Rendering.ofWritten expr).nesting ≤ depth :=
    (Rendering.nesting_ofWritten expr).trans_le fits
  have read := read_clause blank word isName (Rendering.isGrouped_ofWritten expr) rows
    (meaning.symm ▸ Expr.isNormal_reread writable) renderingFits follows
  rwa [Rendering.text_ofWritten, meaning] at read

/-- A printed guard is read back, also if it is left out. -/
theorem read_writtenGuard {depth : Nat} {guard : Option Expr}
    (writable : ∀ expr, guard = some expr → expr.isWritable = true)
    (fits : ∀ expr, guard = some expr → expr.nesting ≤ depth) {later : List Char}
    (declines : (clause depth "when").Declines ('\n' :: later))
    (follows : Follows 0 ('\n' :: later)) :
    (optional (clause depth "when")).read ('\n' :: (Rule.writtenGuard guard ++ later)) =
      .ok (guard.map Expr.reread, '\n' :: later) := by
  cases guard with
  | none => exact declines.read_optional
  | some expr =>
    have form : '\n' :: (Rule.writtenGuard (some expr) ++ later) = closingGap ++
        ("when".toList ++ ':' :: ' ' :: (expr.written ++ '\n' :: later)) := by
      have head : "    when: ".toList = "    ".toList ++ "when".toList ++ [':', ' '] := rfl
      unfold Rule.writtenGuard closingGap
      simp only [List.append_assoc, List.cons_append, List.nil_append, head]
    rw [form]
    exact read_optional (read_writtenClause isGap_closing "when" (by decide) (writable expr rfl)
      (fits expr rfl) follows)

end WidgetAudit.Grammar
