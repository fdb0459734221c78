import WidgetAudit.Proofs.Grammar.Deepening
import WidgetAudit.Proofs.Grammar.Discipline.Rules

/-!
# Whole texts

A text is read by a reader of its rules and then to its end, behind the layout that is left.
One rule and any number of rules differ only in the first of these parts, so `whole` stands
for the second, and what the rules do the text does.
-/

namespace WidgetAudit.Grammar

open Reader
open Source (Passage overflow?)

variable {α : Type}

/-- A reader and the end of the text behind it. -/
def whole (reader : Reader α) : Reader α := do
  let value ← reader
  layout
  finish
  return value

/-! ### The end of a text -/

/-- Layout is never refused. -/
theorem layout_total (input : List Char) : ∃ rest, layout.read input = .ok ((), rest) := by
  cases reply : layout.read input with
  | ok found => exact ⟨found.2, rfl⟩
  | error refusal =>
    rcases bind_refuses reply with atPieces | ⟨_, _, _, given⟩
    · obtain ⟨_, place, _, atPlace, final⟩ := many_refuses atPieces
      exact absurd (layoutPiece_refuses atPlace) final
    · cases given

/-- A text is read to its end if nothing but layout is left behind the reader. -/
theorem whole_accepts {reader : Reader α} {input rest : List Char} {value : α}
    (accepted : (whole reader).read input = .ok (value, rest)) :
    ∃ place, reader.read input = .ok (value, place) ∧ layout.read place = .ok ((), []) := by
  obtain ⟨found, place, begun, ended⟩ := bind_accepts accepted
  obtain ⟨_, last, layoutRead, closed⟩ := bind_accepts ended
  obtain ⟨_, behind, finished, given⟩ := bind_accepts closed
  cases given
  simp only [finish] at finished
  split at finished
  · rename_i empty
    rw [List.isEmpty_iff.mp empty] at layoutRead
    exact ⟨place, begun, layoutRead⟩
  · cases finished

/-- The end of a text asks for no parentheses. -/
theorem whole_suffices {reader : Reader α} {input : List Char} (enough : reader.Suffices input) :
    (whole reader).Suffices input := by
  intro refusal refused
  rcases bind_refuses refused with atReader | ⟨_, place, _, atEnd⟩
  · exact enough refusal atReader
  · obtain ⟨last, layoutRead⟩ := layout_total place
    rw [read_bind layoutRead] at atEnd
    rcases bind_refuses atEnd with atFinish | ⟨_, _, _, given⟩
    · simp only [finish] at atFinish
      split at atFinish
      · cases atFinish
      · cases atFinish
        simp [Refusal.at]
    · cases given

/-- All of a text is on the way of what reads it to its end. -/
theorem whole_passes {reader : Reader α}
    (passes : ∀ {input value rest}, reader.read input = .ok (value, rest) →
      ∃ passed, Passage 0 input passed 0 rest)
    {input rest : List Char} {value : α}
    (accepted : (whole reader).read input = .ok (value, rest)) :
    ∃ passed, Passage 0 input passed 0 [] := by
  obtain ⟨place, begun, layoutRead⟩ := whole_accepts accepted
  obtain ⟨passed, passage⟩ := passes begun
  obtain ⟨others, onward⟩ := (lexical_layout.orderly 0 0).passes layoutRead
  exact ⟨passed ++ others, passage.append onward⟩

/-! ### Rules in front of the end -/

variable [RegexEngine]

/-- The reader of any number of rules, like that of one rule, is a whole one. -/
theorem allRules_eq (depth : Nat) :
    allRules depth = whole (many (rule depth) (consumes_rule depth)) := rfl

/-- A rule is read in order, with no parenthesis open in front of it. -/
theorem orderly_rule {limit depth : Nat} (enough : limit ≤ depth) :
    (rule depth).Orderly limit 0 fun _ => 0 :=
  (closing_rule (by omega)).toOrderly

/-- Of a text that passes the scan, no rule asks for more parentheses than the limit. -/
theorem suffices_rule {limit : Nat} {input : List Char}
    (passes : overflow? limit 0 input = none) : (rule limit).Suffices input :=
  (orderly_rule (Nat.le_refl limit)).shallow (Nat.zero_le _) passes

/-- Of a text that passes the scan, no number of rules asks for more parentheses than the limit. -/
theorem suffices_rules {limit : Nat} {input : List Char}
    (passes : overflow? limit 0 input = none) :
    (many (rule limit) (consumes_rule limit)).Suffices input :=
  (orderly_rule (Nat.le_refl limit)).shallow_many _ (Nat.zero_le _) passes

/-- The grammar alone accepts the text, as one rule or as any number of them, if it is given
enough parentheses. -/
def AcceptsAlone (text : List Char) : Prop :=
  ∃ depth, ((oneRule depth).read text).isOk = true ∨ ((allRules depth).read text).isOk = true

/-- Every text of rules is one passage. -/
theorem passes_of_acceptsAlone {text : List Char} (accepts : AcceptsAlone text) :
    ∃ passed, Passage 0 text passed 0 [] := by
  obtain ⟨depth, one | all⟩ := accepts
  · have orderly : (rule depth).Orderly 0 0 fun _ => 0 := orderly_rule (Nat.zero_le depth)
    cases reply : (oneRule depth).read text with
    | error refusal => simp [reply, Except.isOk, Except.toBool] at one
    | ok found => exact whole_passes orderly.passes reply
  · have orderly : (rule depth).Orderly 0 0 fun _ => 0 := orderly_rule (Nat.zero_le depth)
    cases reply : (allRules depth).read text with
    | error refusal => simp [reply, Except.isOk, Except.toBool] at all
    | ok found =>
      exact whole_passes (fun accepted => orderly.row_passes (many_accepts accepted).1) reply

end WidgetAudit.Grammar
