import WidgetAudit.Proofs.Source.Stopping
import WidgetAudit.Source

/-!
# What becomes of a source

A source comes to one of three ends. The scan stops in front of a parenthesis, the grammar refuses
the source, or the grammar accepts it. Each of the three is told here by an equation, and every
error by the text in front of which it was found.
-/

namespace WidgetAudit.Source

open Grammar

variable {α : Type} {reader : Nat → Reader α} {source : String}

/-- A source is read if it passes the scan and the grammar accepts it. -/
theorem read_accepts_iff {value : α} :
    read reader source = .ok value ↔ overflow? nestingLimit 0 source.toList = none ∧
      ∃ rest, (reader nestingLimit).read source.toList = .ok (value, rest) := by
  constructor
  · intro accepted
    simp only [read] at accepted
    split at accepted
    · cases accepted
    · rename_i passes
      split at accepted
      · rename_i found rest reply
        cases accepted
        exact ⟨passes, rest, reply⟩
      · split at accepted <;> cases accepted
  · rintro ⟨passes, rest, reply⟩
    simp only [read, passes, reply]

/-- The error about a refusal of the grammar. -/
def errorOf (source : String) (refusal : Refusal) : ParseError :=
  errorAt source.toList refusal.rest
    (if refusal.severity = .overNested then nestingMessage else refusalMessage refusal)

/-- Where the scan stops, nothing is read. -/
theorem read_of_overflow {rest : List Char}
    (stops : overflow? nestingLimit 0 source.toList = some rest) :
    read reader source = .error (errorAt source.toList rest nestingMessage) := by
  simp only [read, stops]

/-- Of a source that passes the scan the error is what the grammar refuses. -/
theorem read_of_refusal {refusal : Refusal}
    (passes : overflow? nestingLimit 0 source.toList = none)
    (refused : (reader nestingLimit).read source.toList = .error refusal) :
    read reader source = .error (errorOf source refusal) := by
  simp only [read, passes, refused, errorOf]
  cases refusal.severity <;> rfl

/-- A source is given up in front of a text: the scan stops there, or the scan lets the source pass
and the grammar refuses it there. -/
def StopsAt (reader : Nat → Reader α) (source : String) (rest : List Char) : Prop :=
  overflow? nestingLimit 0 source.toList = some rest ∨
    overflow? nestingLimit 0 source.toList = none ∧
      ∃ refusal, (reader nestingLimit).read source.toList = .error refusal ∧ refusal.rest = rest

/-- A source is given up somewhere in it. -/
theorem StopsAt.isSuffix {rest : List Char} (stops : StopsAt reader source rest) :
    rest <:+ source.toList := by
  obtain scanned | ⟨_, refusal, refused, rfl⟩ := stops
  · exact overflow?_isSuffix scanned
  · have suffix := (reader nestingLimit).left_isSuffix source.toList
    rwa [refused] at suffix

/-- Every error is about the place where the source was given up. -/
theorem exists_stopsAt_of_error {error : ParseError} (refused : read reader source = .error error) :
    ∃ rest, StopsAt reader source rest ∧ error = errorAt source.toList rest error.message := by
  cases scanned : overflow? nestingLimit 0 source.toList with
  | some rest =>
    cases (read_of_overflow scanned).symm.trans refused
    exact ⟨rest, .inl scanned, rfl⟩
  | none =>
    cases reply : (reader nestingLimit).read source.toList with
    | ok found => cases (read_accepts_iff.mpr ⟨scanned, found.2, reply⟩).symm.trans refused
    | error refusal =>
      cases (read_of_refusal scanned reply).symm.trans refused
      exact ⟨refusal.rest, .inr ⟨scanned, refusal, reply, rfl⟩, rfl⟩

end WidgetAudit.Source
