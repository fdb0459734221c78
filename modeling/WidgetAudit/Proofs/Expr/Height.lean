import WidgetAudit.Proofs.Expr.Rendering

/-!
# The height of expressions

What walks over an expression calls itself as deep as the expression is high. In a text there are
three ways to make an expression higher: to open a parenthesis, to put a sign in front of an
operand, and to join another operand to a chain of operators of one level. The first two are
limited, the third is not, because a chain is joined from the left and needs no parentheses.

So the height is measured in two ways here. `height` counts every step, and `levels` counts the
steps along one chain as one. A grouped rendering has no more levels than its parentheses and its
signs allow, and the height is larger than the levels by the length of the longest chain at most.
-/

namespace WidgetAudit

namespace Expr

variable [RegexEngine]

/-- The number of expressions inside one another, an expression without operands being one. -/
def height : Expr → Nat
  | .literal _ | .state _ | .property _ _ | .name _ | .count _ => 1
  | .unary _ operand => operand.height + 1
  | .binary _ left right => max left.height right.height + 1
  | .search subject _ => subject.height + 1
  | .quantified _ _ body => body.height + 1

/-- The level of the outermost operator in the table of precedence, if it is a binary one. -/
def level? : Expr → Option Nat
  | .binary operator _ _ => some operator.tightness
  | .search _ _ => some BinaryOperator.matching.tightness
  | _ => none

/-- Whether an expression on the left of an operator of that level is one chain with it. -/
def chainsWith (level : Nat) (left : Expr) : Bool := left.level? == some level

/-- The number of expressions inside one another, of which those that make one chain count as
one. -/
def levels : Expr → Nat
  | .literal _ | .state _ | .property _ _ | .name _ | .count _ => 1
  | .unary _ operand => operand.levels + 1
  | .binary operator left right =>
    max (if left.chainsWith operator.tightness then left.levels else left.levels + 1)
      (right.levels + 1)
  | .search subject _ =>
    if subject.chainsWith BinaryOperator.matching.tightness then subject.levels
    else subject.levels + 1
  | .quantified _ _ body => body.levels + 1

/-- The number of operators in the chain that the expression is. -/
def chain : Expr → Nat
  | .binary operator left _ => (if left.chainsWith operator.tightness then left.chain else 0) + 1
  | .search subject _ =>
    (if subject.chainsWith BinaryOperator.matching.tightness then subject.chain else 0) + 1
  | _ => 0

/-- The number of operators in the longest chain. -/
def longestChain : Expr → Nat
  | .literal _ | .state _ | .property _ _ | .name _ | .count _ => 0
  | .unary _ operand => operand.longestChain
  | .binary operator left right =>
    max (binary operator left right).chain (max left.longestChain right.longestChain)
  | .search subject pattern => max (search subject pattern).chain subject.longestChain
  | .quantified _ _ body => body.longestChain

/-- What is one chain with an operator on its right has an operator itself. -/
theorem chain_pos_of_chainsWith {level : Nat} {left : Expr}
    (chains : left.chainsWith level = true) : 0 < left.chain := by
  cases left with
  | binary operator left right => exact Nat.succ_pos _
  | search subject pattern => exact Nat.succ_pos _
  | _ => cases chains

/-- The bounds of the height by the levels, if no chain has more than `count` operators: every level
adds as many at most, and the last one no more than the chain has that the expression is. -/
structure HeightWithin (count : Nat) (expr : Expr) : Prop where
  whole : expr.height + count ≤ count * expr.levels + 1
  chained : 0 < expr.chain → expr.height + 2 * count ≤ count * expr.levels + 1 + expr.chain

/-- An operator adds one to the height, and one to the chain or to the levels of what stands on its
left. -/
theorem HeightWithin.left {count : Nat} {left : Expr} (within : left.HeightWithin count)
    (level : Nat) :
    left.height + 1 + 2 * count ≤
      count * (if left.chainsWith level then left.levels else left.levels + 1) + 1 +
        ((if left.chainsWith level then left.chain else 0) + 1) := by
  split
  · rename_i chains
    have chained := within.chained (chain_pos_of_chainsWith chains)
    omega
  · have whole := within.whole
    rw [Nat.mul_succ]
    omega

/-- A chain within the bounds is within the bounds of a whole expression. -/
theorem heightWithin_of_chained {count : Nat} {expr : Expr} (short : expr.chain ≤ count)
    (chained : expr.height + 2 * count ≤ count * expr.levels + 1 + expr.chain) :
    expr.HeightWithin count :=
  ⟨by omega, fun _ => chained⟩

/-- A step down adds one to the height and one level. -/
theorem HeightWithin.step {count : Nat} (positive : 1 ≤ count) {inner outer : Expr}
    (within : inner.HeightWithin count) (higher : outer.height = inner.height + 1)
    (deeper : outer.levels = inner.levels + 1) (noChain : outer.chain = 0) :
    outer.HeightWithin count := by
  have whole := within.whole
  refine ⟨?_, fun chains => absurd chains (by omega)⟩
  rw [higher, deeper, Nat.mul_succ]
  omega

/-- Every level adds no more to the height than the longest chain has operators. -/
theorem heightWithin {count : Nat} (positive : 1 ≤ count) (expr : Expr)
    (short : expr.longestChain ≤ count) : expr.HeightWithin count := by
  have leaf {expr : Expr} (low : expr.height = 1) (flat : expr.levels = 1)
      (noChain : expr.chain = 0) : expr.HeightWithin count :=
    ⟨by rw [low, flat]; omega, fun chains => absurd chains (by omega)⟩
  induction expr with
  | literal value => exact leaf rfl rfl rfl
  | state fact => exact leaf rfl rfl rfl
  | property key access => exact leaf rfl rfl rfl
  | name identifier => exact leaf rfl rfl rfl
  | count relation => exact leaf rfl rfl rfl
  | unary operator operand inductionHypothesis =>
    exact (inductionHypothesis short).step positive rfl rfl rfl
  | quantified relation quantifier body inductionHypothesis =>
    exact (inductionHypothesis short).step positive rfl rfl rfl
  | search subject pattern inductionHypothesis =>
    obtain ⟨ownShort, subjectShort⟩ := Nat.max_le.mp short
    exact heightWithin_of_chained ownShort ((inductionHypothesis subjectShort).left _)
  | binary operator left right leftHypothesis rightHypothesis =>
    obtain ⟨ownShort, othersShort⟩ := Nat.max_le.mp short
    obtain ⟨leftShort, rightShort⟩ := Nat.max_le.mp othersShort
    have leftStep := (leftHypothesis leftShort).left operator.tightness
    have rightStep : right.height + 1 + 2 * count ≤ count * (right.levels + 1) + 2 := by
      have whole := (rightHypothesis rightShort).whole
      rw [Nat.mul_succ]
      omega
    refine heightWithin_of_chained ownShort ?_
    have leftLevels := Nat.mul_le_mul_left count (Nat.le_max_left
      (if left.chainsWith operator.tightness then left.levels else left.levels + 1)
      (right.levels + 1))
    have rightLevels := Nat.mul_le_mul_left count (Nat.le_max_right
      (if left.chainsWith operator.tightness then left.levels else left.levels + 1)
      (right.levels + 1))
    simp only [height, levels, chain]
    omega

/-- The height is bounded by the levels and by the longest chain. -/
theorem height_le (expr : Expr) : expr.height ≤ expr.levels * max 1 expr.longestChain := by
  have positive : 1 ≤ max 1 expr.longestChain := Nat.le_max_left _ _
  have whole := (heightWithin positive expr (Nat.le_max_right _ _)).whole
  rw [Nat.mul_comm]
  omega

/-- A join is an expression of the level of its operator. -/
theorem level?_join (operator : BinaryOperator) (left right : Expr) :
    (join operator left right).level? = some operator.tightness := by
  unfold join
  split
  · rename_i pattern found
    rw [(BinaryOperator.eq_of_pattern? found).1]
    rfl
  · rfl

/-- A join has as many levels as the plain operator at most. -/
theorem levels_join_le (operator : BinaryOperator) (left right : Expr) :
    (join operator left right).levels ≤
      max (if left.chainsWith operator.tightness then left.levels else left.levels + 1)
        (right.levels + 1) := by
  unfold join
  split
  · rename_i pattern found
    rw [(BinaryOperator.eq_of_pattern? found).1]
    exact Nat.le_max_left _ _
  · exact Nat.le_refl _

end Expr

/-! ### Levels of renderings -/

namespace Rendering

/-- How many levels may stand outside all parentheses: the signs in front of an operand, and the
levels of the table of precedence from that of the outermost operator on. -/
def outerLevels (limit : Nat) (rendering : Rendering) : Nat :=
  if prefixTightness ≤ rendering.tightness then rendering.leadingSigns
  else limit + (prefixTightness - rendering.tightness)

/-- The signs in front of the first operand are one of the rows. -/
theorem leadingSigns_le_longestRow (rendering : Rendering) :
    rendering.leadingSigns ≤ rendering.longestRow := by
  cases rendering with
  | signed operator spaced operand => exact Nat.le_max_left _ _
  | _ => exact Nat.zero_le _

/-- An operator of a binary level adds one level to a tighter operand. -/
theorem outerLevels_lt {limit level : Nat} {rendering : Rendering}
    (rows : rendering.longestRow ≤ limit) (binary : level < prefixTightness)
    (tighter : level < rendering.tightness) :
    rendering.outerLevels limit + 1 ≤ limit + (prefixTightness - level) := by
  have signs := rendering.leadingSigns_le_longestRow
  unfold outerLevels
  split <;> omega

/-- Outside all parentheses there are a row of signs and the levels of the table at most. -/
theorem outerLevels_le {limit : Nat} {rendering : Rendering}
    (rows : rendering.longestRow ≤ limit) :
    rendering.outerLevels limit ≤ limit + prefixTightness := by
  have signs := rendering.leadingSigns_le_longestRow
  unfold outerLevels
  split <;> omega

variable [RegexEngine]

/-- A rendering that is no operand of a sign is joined by a binary operator. -/
theorem level?_of_tightness {rendering : Rendering}
    (loose : rendering.tightness < prefixTightness) :
    rendering.expr.level? = some rendering.tightness := by
  have notTight : ¬ primaryTightness < prefixTightness := by decide
  cases rendering with
  | joined operator left right => exact Expr.level?_join operator left.expr right.expr
  | signed => exact absurd loose (Nat.lt_irrefl _)
  | leaf => exact absurd loose notTight
  | quantified => exact absurd loose notTight
  | enclosed => exact absurd loose notTight

/-- A grouped rendering has no more levels than its parentheses and its signs allow: each pair of
parentheses has room for a row of signs and for the levels of the table, and adds one. -/
theorem levels_le {limit : Nat} {rendering : Rendering} (grouped : rendering.isGrouped = true)
    (rows : rendering.longestRow ≤ limit) :
    rendering.expr.levels ≤
      rendering.nesting * (limit + primaryTightness) + 1 + rendering.outerLevels limit := by
  have primary : primaryTightness = prefixTightness + 1 := rfl
  induction rendering with
  | leaf form =>
    have flat : form.expr.levels = 1 := by cases form <;> rfl
    rw [expr, flat]
    omega
  | signed operator spaced operand inductionHypothesis =>
    obtain ⟨operandGrouped, tight⟩ := Bool.and_eq_true_iff.mp grouped
    have within := inductionHypothesis operandGrouped (Nat.max_le.mp rows).2
    have outer : (signed operator spaced operand).outerLevels limit =
        operand.outerLevels limit + 1 := by
      have own : prefixTightness ≤ (signed operator spaced operand).tightness := Nat.le_refl _
      rw [outerLevels, outerLevels, if_pos (of_decide_eq_true tight), if_pos own]
      rfl
    rw [outer]
    exact Nat.succ_le_succ within
  | joined operator left right leftHypothesis rightHypothesis =>
    simp only [isGrouped, Bool.and_eq_true, decide_eq_true_eq] at grouped
    obtain ⟨⟨⟨leftGrouped, rightGrouped⟩, leftTight⟩, rightTight⟩ := grouped
    obtain ⟨leftRows, rightRows⟩ := Nat.max_le.mp rows
    have binary : operator.tightness < prefixTightness := by cases operator <;> decide
    have leftWithin := leftHypothesis leftGrouped leftRows
    have rightWithin := rightHypothesis rightGrouped rightRows
    have rightOuter := outerLevels_lt rightRows binary rightTight
    have leftRoom := Nat.mul_le_mul_right (limit + primaryTightness)
      (Nat.le_max_left left.nesting right.nesting)
    have rightRoom := Nat.mul_le_mul_right (limit + primaryTightness)
      (Nat.le_max_right left.nesting right.nesting)
    have outer : (joined operator left right).outerLevels limit =
        limit + (prefixTightness - operator.tightness) := if_neg (Nat.not_le.mpr binary)
    rw [outer]
    refine Nat.le_trans (Expr.levels_join_le operator left.expr right.expr)
      (Nat.max_le.mpr ⟨?_, ?_⟩)
    · rcases Nat.eq_or_lt_of_le leftTight with same | tighter
      · -- an operand of the same level is one chain with the operator
        have chains : left.expr.chainsWith operator.tightness = true := by
          rw [same] at binary ⊢
          simp only [Expr.chainsWith, level?_of_tightness binary, beq_self_eq_true]
        have leftOuter : left.outerLevels limit = limit + (prefixTightness - left.tightness) :=
          if_neg (by omega)
        rw [if_pos chains, nesting]
        omega
      · have leftOuter := outerLevels_lt leftRows binary tighter
        rw [nesting]
        split <;> omega
    · rw [nesting]
      omega
  | quantified relation quantifier body inductionHypothesis =>
    have within := inductionHypothesis grouped rows
    have outer : body.outerLevels limit ≤ limit + prefixTightness := outerLevels_le rows
    simp only [expr, Expr.levels, nesting, Nat.succ_mul]
    omega
  | enclosed inner inductionHypothesis =>
    have within := inductionHypothesis grouped rows
    have outer : inner.outerLevels limit ≤ limit + prefixTightness := outerLevels_le rows
    simp only [expr, nesting, Nat.succ_mul]
    omega

end Rendering

end WidgetAudit
