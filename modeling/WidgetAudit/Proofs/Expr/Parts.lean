import WidgetAudit.Expr

/-!
# The parts of an expression

Many laws speak of whatever stands somewhere in an expression: under signs and operators, in the
subject of a search, in the body of a quantifier. `parts` lists all of it. What is said of an
expression as a whole by recursion is then said of each part alone, in words that need no
recursion.
-/

namespace WidgetAudit

namespace Expr

variable [RegexEngine]

/-- An expression and all that stands inside it, each part before those inside it. -/
def parts : Expr → List Expr
  | .unary operator operand => .unary operator operand :: operand.parts
  | .binary operator left right => .binary operator left right :: (left.parts ++ right.parts)
  | .search subject pattern => .search subject pattern :: subject.parts
  | .quantified relation quantifier body => .quantified relation quantifier body :: body.parts
  | expr => [expr]

/-- An expression is a part of itself. -/
theorem mem_parts_self (expr : Expr) : expr ∈ expr.parts := by
  cases expr <;> exact List.mem_cons_self

end Expr

end WidgetAudit
