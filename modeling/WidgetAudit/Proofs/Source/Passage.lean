import WidgetAudit.Proofs.Source.Brackets

/-!
# The way of a reading through a text

A passage is the way that a reading takes through a text: over layout, over quoted texts, and
over one character after the other of what is left, while the number of open parentheses is
kept. The scan for parentheses goes the same way with the same numbers: it stops at the first
parenthesis of the passage that opens too many, or else arrives where the passage ends. This
is where the scan and the grammar are compared, and the only place where the rules of both
meet.

A passage says nothing about what its rest is. Its steps depend on the rest all the same,
since a comment and a division begin alike.
-/

namespace WidgetAudit.Source

open Grammar Reader

/-- From a text, in front of which `depth` parentheses are open, a reading comes to the rest of
the text, in front of which `after` are open, and passes these brackets on the way. -/
inductive Passage : (depth : Nat) → (input : List Char) → (passed : List (List Char)) →
    (after : Nat) → (rest : List Char) → Prop
  | stay (depth : Nat) (rest : List Char) : Passage depth rest [] depth rest
  | layout {depth after : Nat} {input behind rest : List Char} {passed : List (List Char)}
      (read : layoutPiece.read input = .ok ((), behind))
      (onward : Passage depth behind passed after rest) : Passage depth input passed after rest
  | quoted {depth after : Nat} {text content behind rest : List Char}
      {passed : List (List Char)} (found : Quoted.body? text = some (content, behind))
      (onward : Passage depth behind passed after rest) :
      Passage depth ('"' :: text) passed after rest
  | solid {depth after : Nat} {char : Char} {later rest : List Char}
      {passed : List (List Char)} (isSolid : IsSolid (char :: later)) (noQuote : char ≠ '"')
      (noBracket : isBracket char = false) (onward : Passage depth later passed after rest) :
      Passage depth (char :: later) passed after rest
  | opening {depth after : Nat} {later rest : List Char} {passed : List (List Char)}
      (onward : Passage (depth + 1) later passed after rest) :
      Passage depth ('(' :: later) (('(' :: later) :: passed) after rest
  | closing {depth after : Nat} {later rest : List Char} {passed : List (List Char)}
      (onward : Passage depth later passed after rest) :
      Passage (depth + 1) (')' :: later) ((')' :: later) :: passed) after rest
  | curly {depth after : Nat} {char : Char} {later rest : List Char}
      {passed : List (List Char)} (isCurly : char = '{' ∨ char = '}')
      (onward : Passage depth later passed after rest) :
      Passage depth (char :: later) ((char :: later) :: passed) after rest

namespace Passage

variable {depth middle after : Nat} {input between rest : List Char}
  {passed others : List (List Char)}

/-- One passage after the other is a passage. -/
theorem append (first : Passage depth input passed middle between)
    (second : Passage middle between others after rest) :
    Passage depth input (passed ++ others) after rest := by
  induction first with
  | stay => exact second
  | layout read _ inductionHypothesis => exact .layout read (inductionHypothesis second)
  | quoted found _ inductionHypothesis => exact .quoted found (inductionHypothesis second)
  | solid isSolid noQuote noBracket _ inductionHypothesis =>
    exact .solid isSolid noQuote noBracket (inductionHypothesis second)
  | opening _ inductionHypothesis => exact .opening (inductionHypothesis second)
  | closing _ inductionHypothesis => exact .closing (inductionHypothesis second)
  | curly isCurly _ inductionHypothesis => exact .curly isCurly (inductionHypothesis second)

/-- The brackets of a text are those of a passage and those of its rest. -/
theorem brackets_eq (passage : Passage depth input passed after rest) :
    brackets input = passed ++ brackets rest := by
  induction passage with
  | stay => rfl
  | layout read _ inductionHypothesis => rw [brackets_layoutPiece read, inductionHypothesis]
  | quoted found _ inductionHypothesis => rw [brackets_quoted found, inductionHypothesis]
  | solid isSolid noQuote noBracket _ inductionHypothesis =>
    rw [brackets_solid isSolid noQuote, noBracket, ← inductionHypothesis]
    rfl
  | opening _ inductionHypothesis =>
    rw [brackets_solid (isSolid_cons rfl _) (by decide), inductionHypothesis]
    rfl
  | closing _ inductionHypothesis =>
    rw [brackets_solid (isSolid_cons rfl _) (by decide), inductionHypothesis]
    rfl
  | curly isCurly _ inductionHypothesis =>
    rcases isCurly with rfl | rfl <;>
      rw [brackets_solid (isSolid_cons rfl _) (by decide), inductionHypothesis] <;> rfl

/-- A passage ends in its text. -/
theorem isSuffix (passage : Passage depth input passed after rest) : rest <:+ input := by
  induction passage with
  | stay => exact List.suffix_rfl
  | @layout _ _ input _ _ _ read _ inductionHypothesis =>
    have suffix := layoutPiece.left_isSuffix input
    rw [read] at suffix
    exact inductionHypothesis.trans suffix
  | quoted found _ inductionHypothesis =>
    exact (inductionHypothesis.trans (Quoted.body?_isSuffix found)).trans (List.suffix_cons ..)
  | solid _ _ _ _ inductionHypothesis => exact inductionHypothesis.trans (List.suffix_cons ..)
  | opening _ inductionHypothesis => exact inductionHypothesis.trans (List.suffix_cons ..)
  | closing _ inductionHypothesis => exact inductionHypothesis.trans (List.suffix_cons ..)
  | curly _ _ inductionHypothesis => exact inductionHypothesis.trans (List.suffix_cons ..)

/-- A bracket that is passed stands in front of the rest. -/
theorem length_lt (passage : Passage depth input passed after rest) :
    ∀ bracket ∈ passed, rest.length < bracket.length := by
  have bracketed {first : Char} {later : List Char} {others : List (List Char)}
      (suffix : rest <:+ later) (behind : ∀ bracket ∈ others, rest.length < bracket.length) :
      ∀ bracket ∈ (first :: later) :: others, rest.length < bracket.length := by
    intro bracket member
    rcases List.mem_cons.mp member with rfl | inOthers
    · exact Nat.lt_succ_of_le suffix.length_le
    · exact behind bracket inOthers
  induction passage with
  | stay => simp
  | layout _ _ inductionHypothesis => exact inductionHypothesis bracketed
  | quoted _ _ inductionHypothesis => exact inductionHypothesis bracketed
  | solid _ _ _ _ inductionHypothesis => exact inductionHypothesis bracketed
  | opening onward inductionHypothesis =>
    exact bracketed onward.isSuffix (inductionHypothesis bracketed)
  | closing onward inductionHypothesis =>
    exact bracketed onward.isSuffix (inductionHypothesis bracketed)
  | curly _ onward inductionHypothesis =>
    exact bracketed onward.isSuffix (inductionHypothesis bracketed)

/-! ### The scan on the same way -/

/-- The scan passes over a solid character that is neither a quote nor a bracket. A slash is
one of them, because no other slash follows it. -/
theorem overflow?_solid {char : Char} {later : List Char} (isSolid : IsSolid (char :: later))
    (noQuote : char ≠ '"') (noBracket : isBracket char = false) (limit depth : Nat) :
    overflow? limit depth (char :: later) = overflow? limit depth later := by
  obtain ⟨_, noHash, noComment⟩ := isSolid char later rfl
  simp only [isBracket, Bool.or_eq_false_iff, beq_eq_false_iff_ne] at noBracket
  obtain ⟨⟨⟨noOpening, noClosing⟩, _⟩, _⟩ := noBracket
  refine overflow?.eq_7 limit depth char later noQuote noHash ?_ noOpening noClosing
  intro tail slash another
  exact noComment slash tail another

/-- If the scan lets a text pass, it lets the rest of a passage pass, and there it has not
gone beyond the limit. -/
theorem overflow?_rest (passage : Passage depth input passed after rest) {limit : Nat}
    (within : depth ≤ limit) (passes : overflow? limit depth input = none) :
    after ≤ limit ∧ overflow? limit after rest = none := by
  induction passage with
  | stay => exact ⟨within, passes⟩
  | layout read _ inductionHypothesis =>
    rw [overflow?_layoutPiece read] at passes
    exact inductionHypothesis within passes
  | quoted found _ inductionHypothesis =>
    rw [overflow?, behindQuote_of_body? found] at passes
    exact inductionHypothesis within passes
  | solid isSolid noQuote noBracket _ inductionHypothesis =>
    rw [overflow?_solid isSolid noQuote noBracket] at passes
    exact inductionHypothesis within passes
  | opening _ inductionHypothesis =>
    rw [overflow?] at passes
    split at passes
    · cases passes
    · exact inductionHypothesis (by omega) passes
  | closing _ inductionHypothesis =>
    rw [overflow?, Nat.add_sub_cancel] at passes
    exact inductionHypothesis (by omega) passes
  | curly isCurly _ inductionHypothesis =>
    rw [overflow?_plain (by rcases isCurly with rfl | rfl <;> decide)] at passes
    exact inductionHypothesis within passes

/-- The text from the first parenthesis on behind which more than `limit` are open. -/
def firstBeyond? (limit opened : Int) (passed : List (List Char)) : Option (List Char) :=
  ((counted opened passed).find? fun parenthesis => limit < parenthesis.2).map Prod.fst

/-- Only brackets are counted. -/
theorem mem_of_mem_counted {opened : Int} {parenthesis : List Char × Int}
    (member : parenthesis ∈ counted opened passed) : parenthesis.1 ∈ passed := by
  fun_induction counted opened passed with
  | case1 => cases member
  | case2 _ _ _ _ inductionHypothesis =>
    rcases List.mem_cons.mp member with rfl | inLater
    · exact List.mem_cons_self
    · exact List.mem_cons_of_mem _ (inductionHypothesis inLater)
  | case3 _ _ _ _ inductionHypothesis =>
    rcases List.mem_cons.mp member with rfl | inLater
    · exact List.mem_cons_self
    · exact List.mem_cons_of_mem _ (inductionHypothesis inLater)
  | case4 _ _ _ _ _ inductionHypothesis =>
    exact List.mem_cons_of_mem _ (inductionHypothesis member)

/-- The first parenthesis beyond a limit is one of those that are passed. -/
theorem mem_of_firstBeyond? {limit opened : Int} {bracket : List Char}
    (found : firstBeyond? limit opened passed = some bracket) : bracket ∈ passed := by
  obtain ⟨parenthesis, first, rfl⟩ := Option.map_eq_some_iff.mp found
  exact mem_of_mem_counted (List.mem_of_find?_eq_some first)

/-- The scan stops at the first parenthesis of a passage behind which too many are open, and
if there is none, where it stops from the rest on. -/
theorem overflow?_eq (passage : Passage depth input passed after rest) {limit : Nat}
    (within : depth ≤ limit) :
    overflow? limit depth input =
      (firstBeyond? limit depth passed).or (overflow? limit after rest) := by
  induction passage with
  | stay => rfl
  | layout read _ inductionHypothesis =>
    rw [overflow?_layoutPiece read, inductionHypothesis within]
  | quoted found _ inductionHypothesis =>
    rw [overflow?, behindQuote_of_body? found, inductionHypothesis within]
  | solid isSolid noQuote noBracket _ inductionHypothesis =>
    rw [overflow?_solid isSolid noQuote noBracket, inductionHypothesis within]
  | @opening depth after later rest passed _ inductionHypothesis =>
    rw [overflow?]
    by_cases full : limit ≤ depth
    · have beyond : (limit : Int) < depth + 1 := by omega
      rw [if_pos full]
      simp [firstBeyond?, counted, beyond]
    · have room : ¬ (limit : Int) < depth + 1 := by omega
      rw [if_neg full, inductionHypothesis (by omega)]
      simp [firstBeyond?, counted, room]
  | @closing depth after later rest passed _ inductionHypothesis =>
    have room : ¬ (limit : Int) < depth := by omega
    rw [overflow?, Nat.add_sub_cancel, inductionHypothesis (by omega)]
    simp [firstBeyond?, counted, room]
  | curly isCurly _ inductionHypothesis =>
    rw [overflow?_plain (by rcases isCurly with rfl | rfl <;> decide), inductionHypothesis within]
    rcases isCurly with rfl | rfl <;> simp [firstBeyond?, counted]

end Passage

end WidgetAudit.Source
