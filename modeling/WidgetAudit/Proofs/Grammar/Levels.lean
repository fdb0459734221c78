import WidgetAudit.Proofs.Grammar.Following

/-!
# The levels of the grammar

The six levels of binary operators, the level of signs and that of plain operands form one
row of readers, each of which reads its operands with the next one. A level with operators
first reads an operand and then goes on from it, and the two halves are kept apart here:
`continueAt` is what a level makes of an expression that stands already and of the text
behind it. One more operator of the level and its right operand change the expression and
leave the rest to be continued. Therefore operators of one level are joined from the left,
however many of them follow.
-/

namespace WidgetAudit.Grammar

open Reader

/-- An operator between spaces is read with the layout in front of it. -/
theorem read_joint (joint : BinaryOperator) (input : List Char) {β : Type}
    (next : BinaryOperator → Reader β) :
    (layout >>= fun _ => operatorAt joint.tightness >>= next).read
        (' ' :: (joint.sign.toList ++ ' ' :: input)) = (next joint).read (' ' :: input) := by
  have stops : Stops (joint.tightness + 1) (joint.sign.toList ++ ' ' :: input) :=
    .operator (Nat.lt_succ_self _) input
  rw [read_bind (read_layout_space stops.isSolid), read_bind (read_operatorAt joint input)]

/-! ### The row of levels -/

variable [RegexEngine]

/-- The reader of a level. -/
def tier (inner : Reader Expr) (level : Nat) : Reader Expr :=
  match level with
  | 0 => disjunction inner
  | 1 => conjunction inner
  | 2 => equality inner
  | 3 => comparison inner
  | 4 => sum inner
  | 5 => product inner
  | 6 => signed inner
  | _ => primary inner

/-- What a level makes of an expression and the text behind it. The signs in front and the
plain operands add nothing behind an expression. -/
def continueAt (inner : Reader Expr) (level : Nat) (left : Expr) (input : List Char) :
    Reply Expr :=
  if level = 2 then
    extend (equalityStep inner) (consumes_equalityStep inner) (fun left step => step left) left
      input
  else if level < prefixTightness then
    extend (chainStep (tier inner (level + 1)) (operatorAt level))
      (consumes_chainStep _ (consumes_operatorAt level))
      (fun left other => .binary other.1 left other.2) left input
  else .ok (left, input)

/-- A level with operators reads an operand with the next level and goes on from there. -/
theorem read_tier {inner : Reader Expr} {level : Nat} (inTable : level < prefixTightness)
    {input rest : List Char} {first : Expr}
    (begun : (tier inner (level + 1)).read input = .ok (first, rest)) :
    (tier inner level).read input = continueAt inner level first rest := by
  have levels : level = 0 ∨ level = 1 ∨ level = 2 ∨ level = 3 ∨ level = 4 ∨ level = 5 := by
    unfold prefixTightness at inTable
    omega
  rcases levels with rfl | rfl | rfl | rfl | rfl | rfl
  · exact read_chain (consumes_chainStep _ (consumes_operatorAt 0)) _ begun
  · exact read_chain (consumes_chainStep _ (consumes_operatorAt 1)) _ begun
  · exact read_chain (consumes_equalityStep inner) _ begun
  · exact read_chain (consumes_chainStep _ (consumes_operatorAt 3)) _ begun
  · exact read_chain (consumes_chainStep _ (consumes_operatorAt 4)) _ begun
  · exact read_chain (consumes_chainStep _ (consumes_operatorAt 5)) _ begun

/-! ### One more operator -/

/-- A right operand of `matches` that a rule can write there passes the check, and what it
makes of a subject is the join of both. -/
theorem matchOperand_passes (right : Expr)
    (compiles : right.isText = true → ∃ pattern, BinaryOperator.matching.pattern? right =
      some pattern) :
    ∃ step, matchOperand right = .ok step ∧ ∀ left, step left = .join .matching left right := by
  by_cases text : right.isText = true
  · obtain ⟨pattern, found⟩ := compiles text
    unfold Expr.isText at text
    split at text
    · rename_i source
      simp only [BinaryOperator.pattern?, if_true] at found
      cases compiled : Pattern.compile source with
      | error fault =>
        rw [compiled] at found
        cases found
      | ok other =>
        refine ⟨fun subject => .search subject other, ?_, fun left => ?_⟩
        · simp only [matchOperand, compiled]
        · simp only [Expr.join, BinaryOperator.pattern?, if_true, compiled, Except.toOption]
    · cases text
  · have plain : (BinaryOperator.matching == .matching && right.isText) = false := by
      simpa using text
    refine ⟨fun subject => .binary .matching subject right, ?_, fun left => ?_⟩
    · unfold matchOperand
      split
      · exact absurd rfl text
      · rfl
    · exact (Expr.join_of_not_text left plain).symm

section Steps

variable {inner : Reader Expr} {joint : BinaryOperator} {right : Expr} {input rest : List Char}

/-- A step of the level of equality. The operand of `matches` is checked without the layout
in front of it, so the space is skipped first. -/
theorem read_equalityStep (atLevel : joint.tightness = 2) (solid : IsSolid input)
    (readBare : (comparison inner).read input = .ok (right, rest))
    (readSpaced : (comparison inner).read (' ' :: input) = .ok (right, rest))
    (compiles : (joint == .matching && right.isText) = true →
      ∃ pattern, joint.pattern? right = some pattern) :
    ∃ step, (equalityStep inner).read (' ' :: (joint.sign.toList ++ ' ' :: input)) =
      .ok (step, rest) ∧ ∀ left, step left = .join joint left right := by
  by_cases isMatching : joint = .matching
  · subst isMatching
    obtain ⟨step, passes, joins⟩ := matchOperand_passes right fun text =>
      compiles (by simp [text])
    have checkedRead : (layout >>= fun _ => (comparison inner).checked matchOperand).read
        (' ' :: input) = .ok (step, rest) := by
      rw [read_bind (read_layout_space solid), read_checked readBare passes]
    exact ⟨step, (read_joint .matching input _).trans
      (read_remarking (read_commit checkedRead) _), joins⟩
  · have plain : (joint == .matching && right.isText) = false := by simp [isMatching]
    refine ⟨fun left => .binary joint left right, ?_,
      fun left => (Expr.join_of_not_text left plain).symm⟩
    have joined := read_joint joint input fun operator =>
      if operator = .matching then
        remarking (.reading "matches operand") <| commit do
          layout
          (comparison inner).checked matchOperand
      else do
        let right ← commit (comparison inner)
        return fun left => .binary operator left right
    rw [atLevel] at joined
    refine Eq.trans joined ?_
    rw [if_neg isMatching]
    exact read_map (read_commit readSpaced) _

/-- An operator of the level and its right operand change the expression on their left, and
the level goes on behind them. -/
theorem continueAt_step (left : Expr) (solid : IsSolid input)
    (readBare : (tier inner (joint.tightness + 1)).read input = .ok (right, rest))
    (readSpaced : (tier inner (joint.tightness + 1)).read (' ' :: input) = .ok (right, rest))
    (compiles : (joint == .matching && right.isText) = true →
      ∃ pattern, joint.pattern? right = some pattern) :
    continueAt inner joint.tightness left (' ' :: (joint.sign.toList ++ ' ' :: input)) =
      continueAt inner joint.tightness (.join joint left right) rest := by
  by_cases atEquality : joint.tightness = 2
  · rw [atEquality] at readBare readSpaced
    obtain ⟨step, read, joins⟩ :=
      read_equalityStep atEquality solid readBare readSpaced compiles
    unfold continueAt
    rw [if_pos atEquality, if_pos atEquality, extend_step _ _ _ read, joins]
  · have inTable : joint.tightness < prefixTightness := by cases joint <;> decide
    have other : joint ≠ .matching := by
      rintro rfl
      exact atEquality rfl
    have plain : (joint == .matching && right.isText) = false := by simp [other]
    have read : (chainStep (tier inner (joint.tightness + 1)) (operatorAt joint.tightness)).read
        (' ' :: (joint.sign.toList ++ ' ' :: input)) = .ok ((joint, right), rest) :=
      (read_joint joint input _).trans (read_map (read_commit readSpaced) _)
    unfold continueAt
    rw [if_neg atEquality, if_neg atEquality, if_pos inTable, if_pos inTable,
      extend_step _ _ _ read, Expr.join_of_not_text left plain]

/-- A level ends in front of what may follow its expressions. -/
theorem continueAt_stop {level : Nat} (left : Expr) {following : List Char}
    (follows : Follows level following) :
    continueAt inner level left following = .ok (left, following) := by
  unfold continueAt
  split
  · rename_i atEquality
    subst atEquality
    have ends : (equalityStep inner).Declines following :=
      follows.declines_operatorAt (by decide) _
    exact ends.extend _ _ _
  · split
    · rename_i inTable
      have ends : (chainStep (tier inner (level + 1)) (operatorAt level)).Declines following :=
        follows.declines_operatorAt inTable _
      exact ends.extend _ _ _
    · rfl

end Steps

end WidgetAudit.Grammar
