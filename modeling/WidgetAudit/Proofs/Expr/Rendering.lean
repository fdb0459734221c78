import WidgetAudit.Expr.Written
import WidgetAudit.Proofs.Grammar.Lexemes

/-!
# Renderings of expressions

A rendering is a way of writing an expression down: the tree of its operators and operands
with every pair of parentheses that is written, the needed and the superfluous ones. It
determines its text and the expression that it stands for. The printer chooses one of the
renderings of an expression, the one with parentheses around every operator.

`tightness` is the table of precedence. A rendering is grouped if it has parentheses at
least where the table wants them, all binary operators being joined from the left. The
grammar is not mentioned here; what it makes of a grouped rendering is proved elsewhere.
-/

namespace WidgetAudit

/-! ### Precedence -/

/-- The level of a binary operator in the table of precedence; a tighter operator takes its
operands first. -/
def BinaryOperator.tightness : BinaryOperator → Nat
  | .or => 0
  | .and => 1
  | .equal | .notEqual | .looselyEqual | .contains | .matching => 2
  | .less | .lessOrEqual | .greater | .greaterOrEqual => 3
  | .add | .subtract => 4
  | .multiply | .divide => 5

/-- No two binary operators are written alike. -/
theorem BinaryOperator.sign_injective {first second : BinaryOperator}
    (same : first.sign = second.sign) : first = second := by
  cases first <;> cases second <;> first
    | rfl
    | exact absurd same (by decide)

/-- The level of the signs in front of an operand. -/
def prefixTightness : Nat := 6

/-- The level of what needs no parentheses anywhere. -/
def primaryTightness : Nat := 7

/-! ### Expressions that can be written -/

/-- A literal has no sign of its own: in front of a number, a sign is an operator. There is
no literal for the null value, for an infinity and for the value that is no number. -/
def Value.isNormal : Value → Bool
  | .null => false
  | .bool _ => true
  | .int number => decide (0 ≤ number.toInt)
  | .float (.finite negative _ _ _) => !negative
  | .float _ => false
  | .string _ => true

/-- A bare name is an identifier that has no other meaning. The words of operators and
relations are no exception: where an operand is expected they are names. -/
def isBareName (name : String) : Bool :=
  isIdentifier name && name != "true" && name != "false" && (NodeState.ofWord? name).isNone

variable [RegexEngine]

/-- The pattern that an operator and its right operand make together: the text of a regular
expression behind `matches`. -/
def BinaryOperator.pattern? (operator : BinaryOperator) (right : Expr) : Option Pattern :=
  match right with
  | .literal (.string source) =>
    if operator = .matching then (Pattern.compile source).toOption else none
  | _ => none

/-- Only `matches` and a quoted text make a pattern, and the text is that of the pattern. -/
theorem BinaryOperator.eq_of_pattern? {operator : BinaryOperator} {right : Expr}
    {pattern : Pattern} (found : operator.pattern? right = some pattern) :
    operator = .matching ∧ right = .literal (.string pattern.source) := by
  unfold pattern? at found
  split at found
  · rename_i source
    split at found
    · rename_i isMatching
      cases compiled : Pattern.compile source with
      | error fault =>
        rw [compiled] at found
        cases found
      | ok other =>
        rw [compiled] at found
        cases found
        exact ⟨isMatching, by rw [← Pattern.compile_eq_ok_iff.mp compiled]⟩
    · cases found
  · cases found

/-- Whether an expression is a literal text. -/
def Expr.isText : Expr → Bool
  | .literal (.string _) => true
  | _ => false

/-- The expressions that a rule can write. A text behind `matches` is a pattern, so it never
stands there as an operand. -/
def Expr.isNormal : Expr → Bool
  | .literal value => value.isNormal
  | .state _ | .property _ _ | .count _ => true
  | .name identifier => isBareName identifier
  | .unary _ operand => operand.isNormal
  | .binary operator left right =>
    left.isNormal && right.isNormal && !(operator == .matching && right.isText)
  | .search subject _ => subject.isNormal
  | .quantified _ _ body => body.isNormal

/-- Two expressions joined by an operator. -/
def Expr.join (operator : BinaryOperator) (left right : Expr) : Expr :=
  match operator.pattern? right with
  | some pattern => .search left pattern
  | none => .binary operator left right

/-- A search is what a subject and the text of its pattern make. -/
theorem Expr.join_source (subject : Expr) (pattern : Pattern) :
    join .matching subject (.literal (.string pattern.source)) = .search subject pattern := by
  have compiled : Pattern.compile pattern.source = .ok pattern :=
    Pattern.compile_eq_ok_iff.mpr rfl
  simp only [join, BinaryOperator.pattern?, if_true, compiled, Except.toOption]

/-- A join that is not a search is the plain operator. -/
theorem Expr.join_of_not_text {operator : BinaryOperator} (left : Expr) {right : Expr}
    (plain : (operator == .matching && right.isText) = false) :
    join operator left right = .binary operator left right := by
  have noPattern : operator.pattern? right = none := by
    unfold BinaryOperator.pattern?
    split
    · have other : operator ≠ .matching := by simpa [isText] using plain
      rw [if_neg other]
    · rfl
  simp only [join, noPattern]

/-- The operands of a normal expression are normal, and a text behind `matches` is the text
of a pattern. -/
theorem Expr.operands_normal {operator : BinaryOperator} {left right : Expr}
    (normal : (join operator left right).isNormal = true) :
    left.isNormal = true ∧ right.isNormal = true ∧
      ((operator == .matching && right.isText) = true →
        ∃ pattern, operator.pattern? right = some pattern) := by
  unfold join at normal
  split at normal
  · rename_i pattern found
    refine ⟨normal, ?_, fun _ => ⟨pattern, found⟩⟩
    unfold BinaryOperator.pattern? at found
    split at found
    · rfl
    · cases found
  · simp only [isNormal, Bool.and_eq_true, Bool.not_eq_true'] at normal
    exact ⟨normal.1.1, normal.1.2, fun text => absurd text (by simp [normal.2])⟩

/-! ### Renderings -/

/-- An expression without operands. -/
inductive Leaf
  | literal (value : Value)
  | state (fact : NodeState)
  | property (key : String) (access : PropertyAccess)
  | name (identifier : String)
  | count (relation : Relation)

/-- The expression that a leaf is. -/
def Leaf.expr : Leaf → Expr
  | .literal value => .literal value
  | .state fact => .state fact
  | .property key access => .property key access
  | .name identifier => .name identifier
  | .count relation => .count relation

/-- An expression with the parentheses that are written. A sign in front may be set off from
its operand by a space. -/
inductive Rendering
  | leaf (form : Leaf)
  | signed (operator : UnaryOperator) (spaced : Bool) (operand : Rendering)
  | joined (operator : BinaryOperator) (left right : Rendering)
  | quantified (relation : Relation) (quantifier : Quantifier) (body : Rendering)
  | enclosed (inner : Rendering)

namespace Rendering

/-- What is written. Leaves are spelled as the printer spells them, and a binary operator
stands between two spaces. -/
def text : Rendering → List Char
  | .leaf form => form.expr.written
  | .signed operator spaced operand =>
    operator.sign :: ((if spaced then [' '] else []) ++ operand.text)
  | .joined operator left right =>
    left.text ++ ' ' :: (operator.sign.toList ++ ' ' :: right.text)
  | .quantified relation quantifier body =>
    relation.word.toList ++ '.' :: (quantifier.word.toList ++ '(' :: (body.text ++ [')']))
  | .enclosed inner => '(' :: (inner.text ++ [')'])

/-- The expression that is meant: parentheses only group. -/
def expr : Rendering → Expr
  | .leaf form => form.expr
  | .signed operator _ operand => .unary operator operand.expr
  | .joined operator left right => .join operator left.expr right.expr
  | .quantified relation quantifier body => .quantified relation quantifier body.expr
  | .enclosed inner => inner.expr

/-- The level of the outermost operator that stands outside all parentheses. -/
def tightness : Rendering → Nat
  | .leaf _ | .quantified _ _ _ | .enclosed _ => primaryTightness
  | .signed _ _ _ => prefixTightness
  | .joined operator _ _ => operator.tightness

/-- Parentheses stand at least where the table wants them. On the left of a binary operator
an operator of the same level needs none; on its right it does. -/
def isGrouped : Rendering → Bool
  | .leaf _ => true
  | .signed _ _ operand => operand.isGrouped && decide (prefixTightness ≤ operand.tightness)
  | .joined operator left right =>
    left.isGrouped && right.isGrouped && decide (operator.tightness ≤ left.tightness) &&
      decide (operator.tightness < right.tightness)
  | .quantified _ _ body => body.isGrouped
  | .enclosed inner => inner.isGrouped

/-- The number of signs that stand in front of the first operand in a row. -/
def leadingSigns : Rendering → Nat
  | .signed _ _ operand => operand.leadingSigns + 1
  | _ => 0

/-- The length of the longest row of signs. -/
def longestRow : Rendering → Nat
  | .leaf _ => 0
  | .signed _ _ operand => max (operand.leadingSigns + 1) operand.longestRow
  | .joined _ left right => max left.longestRow right.longestRow
  | .quantified _ _ body => body.longestRow
  | .enclosed inner => inner.longestRow

/-- The greatest number of parentheses that are open at once, those of properties and
quantifiers included. -/
def nesting : Rendering → Nat
  | .leaf (.property _ _) => 1
  | .leaf _ => 0
  | .signed _ _ operand => operand.nesting
  | .joined _ left right => max left.nesting right.nesting
  | .quantified _ _ body => body.nesting + 1
  | .enclosed inner => inner.nesting + 1

/-! ### The rendering that is printed -/

/-- An expression with parentheses around every operator and its operands. -/
def ofExpr : Expr → Rendering
  | .literal value => .leaf (.literal value)
  | .state fact => .leaf (.state fact)
  | .property key access => .leaf (.property key access)
  | .name identifier => .leaf (.name identifier)
  | .unary operator operand => .enclosed (.signed operator false (ofExpr operand))
  | .binary operator left right => .enclosed (.joined operator (ofExpr left) (ofExpr right))
  | .search subject pattern =>
    .enclosed (.joined .matching (ofExpr subject) (.leaf (.literal (.string pattern.source))))
  | .quantified relation quantifier body => .quantified relation quantifier (ofExpr body)
  | .count relation => .leaf (.count relation)

/-- The printer writes this rendering. -/
theorem text_ofExpr (expr : Expr) : (ofExpr expr).text = expr.written := by
  induction expr with
  | literal value => rfl
  | state fact => rfl
  | property key access => rfl
  | name identifier => rfl
  | unary operator operand inductionHypothesis =>
    simp [ofExpr, text, Expr.written, inductionHypothesis]
  | binary operator left right leftHypothesis rightHypothesis =>
    simp [ofExpr, text, Expr.written, leftHypothesis, rightHypothesis]
  | search subject pattern inductionHypothesis =>
    simp [ofExpr, text, Expr.written, inductionHypothesis, Leaf.expr, Value.written,
      BinaryOperator.sign]
  | quantified relation quantifier body inductionHypothesis =>
    simp [ofExpr, text, Expr.written, inductionHypothesis]
  | count relation => rfl

/-- What is printed for an expression is a leaf or stands between parentheses. -/
theorem tightness_ofExpr (expr : Expr) : (ofExpr expr).tightness = primaryTightness := by
  cases expr <;> rfl

/-- What is printed begins with no sign. -/
theorem leadingSigns_ofExpr (expr : Expr) : (ofExpr expr).leadingSigns = 0 := by
  cases expr <;> rfl

/-- The printer writes all the parentheses that the table wants. -/
theorem isGrouped_ofExpr (expr : Expr) : (ofExpr expr).isGrouped = true := by
  have looser : ∀ operator : BinaryOperator, operator.tightness < primaryTightness := by
    intro operator
    cases operator <;> decide
  have prefixed : prefixTightness ≤ primaryTightness := by decide
  induction expr with
  | literal value => rfl
  | state fact => rfl
  | property key access => rfl
  | name identifier => rfl
  | unary operator operand inductionHypothesis =>
    simp [ofExpr, isGrouped, inductionHypothesis, tightness_ofExpr, prefixed]
  | binary operator left right leftHypothesis rightHypothesis =>
    simp [ofExpr, isGrouped, leftHypothesis, rightHypothesis, tightness_ofExpr, looser,
      Nat.le_of_lt (looser operator)]
  | search subject pattern inductionHypothesis =>
    have right : BinaryOperator.matching.tightness <
        (leaf (.literal (.string pattern.source))).tightness := looser .matching
    simp [ofExpr, isGrouped, inductionHypothesis, tightness_ofExpr, right,
      Nat.le_of_lt (looser .matching)]
  | quantified relation quantifier body inductionHypothesis => exact inductionHypothesis
  | count relation => rfl

/-- The printer never writes two signs in a row. -/
theorem longestRow_ofExpr (expr : Expr) : (ofExpr expr).longestRow ≤ 1 := by
  induction expr with
  | literal value => exact Nat.zero_le _
  | state fact => exact Nat.zero_le _
  | property key access => exact Nat.zero_le _
  | name identifier => exact Nat.zero_le _
  | unary operator operand inductionHypothesis =>
    simpa only [ofExpr, longestRow, leadingSigns_ofExpr] using
      Nat.max_le.mpr ⟨Nat.le_refl 1, inductionHypothesis⟩
  | binary operator left right leftHypothesis rightHypothesis =>
    exact Nat.max_le.mpr ⟨leftHypothesis, rightHypothesis⟩
  | search subject pattern inductionHypothesis =>
    exact Nat.max_le.mpr ⟨inductionHypothesis, Nat.zero_le _⟩
  | quantified relation quantifier body inductionHypothesis => exact inductionHypothesis
  | count relation => exact Nat.zero_le _

end Rendering

/-- The greatest number of parentheses that are open at once in the written form of an
expression. -/
def Expr.nesting : Expr → Nat
  | .literal _ | .state _ | .name _ | .count _ => 0
  | .property _ _ => 1
  | .unary _ operand => operand.nesting + 1
  | .binary _ left right => max left.nesting right.nesting + 1
  | .search subject _ => subject.nesting + 1
  | .quantified _ _ body => body.nesting + 1

/-- The rendering that is printed opens as many parentheses. -/
theorem Rendering.nesting_ofExpr (expr : Expr) : (ofExpr expr).nesting = expr.nesting := by
  induction expr with
  | literal value => rfl
  | state fact => rfl
  | property key access => rfl
  | name identifier => rfl
  | unary operator operand inductionHypothesis =>
    simp only [ofExpr, nesting, Expr.nesting, inductionHypothesis]
  | binary operator left right leftHypothesis rightHypothesis =>
    simp only [ofExpr, nesting, Expr.nesting, leftHypothesis, rightHypothesis]
  | search subject pattern inductionHypothesis =>
    simp only [ofExpr, nesting, Expr.nesting, inductionHypothesis, Nat.max_zero]
  | quantified relation quantifier body inductionHypothesis =>
    simp only [ofExpr, nesting, Expr.nesting, inductionHypothesis]
  | count relation => rfl

end WidgetAudit
