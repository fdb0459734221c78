import WidgetAudit.Expr
import WidgetAudit.Text.Quoted

/-!
# The written form of expressions

An expression is written with parentheses around every operator and its operands, so that
no rule of precedence is needed to read it. Floating-point numbers get a point, which
tells them from whole ones.

Not every expression has a written form that reads back: a negative number is written
with a sign, which a reader takes for an operator, and the null value and a name that is
not an identifier are written as they are.
-/

namespace WidgetAudit

/-- A literal value as a rule writes it. -/
def Value.written : Value → List Char
  | .string text => Quoted.written text.toList
  | .float number =>
    let digits := Shortest.text number
    if number.isFinite && !digits.contains '.' then digits ++ ['.', '0'] else digits
  | value => value.text.toList

/-- What is written behind a property for the way in which it is read. -/
def PropertyAccess.written : PropertyAccess → List Char
  | .raw => []
  | .cast target => " as ".toList ++ target.word.toList
  | .isResolved => ".is_resolved".toList

variable [RegexEngine]

/-- An expression as a rule writes it. -/
def Expr.written : Expr → List Char
  | .literal value => value.written
  | .state fact => fact.word.toList
  | .property key access =>
    "prop(".toList ++ Quoted.written key.toList ++ ')' :: access.written
  | .name identifier => identifier.toList
  | .unary operator operand => '(' :: operator.sign :: operand.written ++ [')']
  | .binary operator left right =>
    '(' :: left.written ++ ' ' :: operator.sign.toList ++ ' ' :: right.written ++ [')']
  | .search subject pattern =>
    '(' :: subject.written ++ " matches ".toList ++ Quoted.written pattern.source.toList ++ [')']
  | .quantified relation quantifier body =>
    relation.word.toList ++ '.' :: quantifier.word.toList ++ '(' :: body.written ++ [')']
  | .count relation => relation.word.toList ++ ".length".toList

/-- The text of an expression. -/
def Expr.text (expr : Expr) : String := String.ofList expr.written

end WidgetAudit
