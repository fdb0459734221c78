import WidgetAudit.Pattern.GapEngine
import WidgetAudit.Proofs.Expr.Height
import WidgetAudit.Proofs.Rule.Spelling

/-!
# The height of the expressions of a rule

Two limits are put on what a source may contain: on the parentheses that are open at once, and on
the signs in front of one operand. Between them they bound how many levels of operators stand inside
one another in an expression that has been read. They do not bound its height, because a chain of
operators of one level may be as long as one likes; apart from such chains they do.
-/

namespace WidgetAudit

/-- The greatest number of levels in an expression that a source gives: outside all parentheses and
inside each pair of them there is room for a row of signs and for the levels of the table of
precedence. -/
def Rule.levelLimit : Nat := (Source.nestingLimit + 1) * (Grammar.signLimit + primaryTightness)

section AnyEngine

variable [RegexEngine]

/-- A rendering that keeps to the limits means an expression that keeps to the limit of levels. -/
theorem Rendering.levels_le_levelLimit {rendering : Rendering}
    (grouped : rendering.isGrouped = true) (rows : rendering.longestRow ≤ Grammar.signLimit)
    (fits : rendering.nesting ≤ Source.nestingLimit) :
    rendering.expr.levels ≤ Rule.levelLimit := by
  have within := levels_le grouped rows
  have outer := outerLevels_le rows
  have room := Nat.mul_le_mul_right (Grammar.signLimit + primaryTightness) fits
  have primary : primaryTightness = prefixTightness + 1 := rfl
  rw [Rule.levelLimit, Nat.succ_mul]
  omega

namespace Rule

/-- The expressions of every rule that a source gives have so many levels at most, of which a chain
of operators of one level counts as one. So an expression is higher than that only by the length of
its longest chain. -/
theorem height_le_of_isReadFrom {source : String} {rule : Rule} (given : rule.IsReadFrom source)
    {expr : Expr} (member : expr ∈ rule.expressions) :
    expr.levels ≤ levelLimit ∧ expr.height ≤ levelLimit * max 1 expr.longestChain := by
  obtain ⟨input, rest, passes, read⟩ := given.read
  obtain ⟨form, _, writes, _, _, fits⟩ := exists_form_of_read passes read
  obtain ⟨rendering, own, rfl⟩ := writes.exists_rendering member
  have levels := Rendering.levels_le_levelLimit (writes.grouped rendering own)
    (writes.rows rendering own) (fits rendering own)
  exact ⟨levels, Nat.le_trans rendering.expr.height_le (Nat.mul_le_mul_right _ levels)⟩

end Rule

namespace Rendering

/-- A row of operators is as high as it is long. -/
theorem height_expr_disjunctions (count : Nat) :
    (disjunctions count).expr.height = count + 1 := by
  induction count with
  | zero => rfl
  | succ count inductionHypothesis =>
    change Expr.height (.binary .or (disjunctions count).expr (.literal (.bool true))) = _
    simp only [Expr.height, inductionHypothesis]
    omega

end Rendering

namespace Rule

end Rule

end AnyEngine

/-- A row of operators is higher than the limit of levels. -/
theorem Rule.height_le_disjunctions :
    levelLimit < (Rendering.disjunctions 6000).expr.height ∧
      (Rendering.disjunctions 6000).expr.levels ≤ levelLimit ∧
      (Rendering.disjunctions 6000).expr.height ≤
        levelLimit * max 1 (Rendering.disjunctions 6000).expr.longestChain := by
  have higher : levelLimit < (Rendering.disjunctions 6000).expr.height := by
    rw [Rendering.height_expr_disjunctions]
    decide
  exact ⟨higher, height_le_of_isReadFrom (.inl (Rendering.parse_disjunctions 6000))
    (List.mem_singleton.mpr rfl)⟩

/-- No number bounds the height of all expressions that sources give. -/
theorem Rule.height_unbounded :
    ¬ ∃ bound : Nat, ∀ (source : String) (rule : Rule), rule.IsReadFrom source →
      ∀ expr ∈ rule.expressions, expr.height ≤ bound := by
  rintro ⟨bound, bounded⟩
  have within := bounded _ _ (.inl (Rendering.parse_disjunctions bound))
    (Rendering.disjunctions bound).expr (List.mem_singleton.mpr rfl)
  rw [Rendering.height_expr_disjunctions] at within
  omega

end WidgetAudit
