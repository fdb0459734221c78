import WidgetAudit.Expr
import WidgetAudit.Grammar.Lexeme

/-!
# The grammar of expressions

Binary operators stand on six levels, from the loosest to the tightest:

* `||`
* `&&`
* `==`, `!=`, `~=`, `contains`, `matches`
* `<`, `<=`, `>`, `>=`
* `+`, `-`
* `*`, `/`

All of them take their operands from the left. Signs in front bind tighter than any
operator, and at most 32 of them stand in a row. Once an operator has been read, an
operand has to follow.

An expression inside parentheses is read by a reader that the levels take as an
argument. So the levels are no recursion; the only recursion is `expression`, on the
number of parentheses that may still be opened inside one another.
-/

namespace WidgetAudit.Grammar

open Reader

/-! ### Operators -/

/-- A binary operator that is written as a sign. -/
def signOf (operator : BinaryOperator) : Reader BinaryOperator := do
  Reader.text operator.sign
  return operator

/-- A binary operator that is written as a word. -/
def wordOf (operator : BinaryOperator) : Reader BinaryOperator := do
  keyword operator.sign
  return operator

/-- The sign of an operator reads something. -/
theorem consumes_signOf (operator : BinaryOperator) : (signOf operator).Consumes :=
  (consumes_text (by cases operator <;> decide)).bind _

/-- The word of an operator reads something. -/
theorem consumes_wordOf (operator : BinaryOperator) : (wordOf operator).Consumes :=
  (consumes_keyword _).bind _

/-- The operator of the loosest level. -/
def disjunctionSign : Reader BinaryOperator := signOf .or

/-- The operator of the second level. -/
def conjunctionSign : Reader BinaryOperator := signOf .and

/-- An operator of the level of equality. -/
def equalitySign : Reader BinaryOperator :=
  signOf .equal <|> signOf .notEqual <|> signOf .looselyEqual <|> wordOf .contains <|>
    wordOf .matching

/-- A longer sign is tried before the shorter one that it begins with. -/
def orderSign : Reader BinaryOperator :=
  signOf .lessOrEqual <|> signOf .less <|> signOf .greaterOrEqual <|> signOf .greater

/-- An operator of sums. -/
def sumSign : Reader BinaryOperator := signOf .add <|> signOf .subtract

/-- An operator of products. -/
def productSign : Reader BinaryOperator := signOf .multiply <|> signOf .divide

/-- An operator of equality reads something, whichever it is. -/
theorem consumes_equalitySign : equalitySign.Consumes :=
  (consumes_signOf _).orElse <| (consumes_signOf _).orElse <| (consumes_signOf _).orElse <|
    (consumes_wordOf _).orElse (consumes_wordOf _)

/-- An operator of order reads something. -/
theorem consumes_orderSign : orderSign.Consumes :=
  (consumes_signOf _).orElse <| (consumes_signOf _).orElse <| (consumes_signOf _).orElse
    (consumes_signOf _)

/-- An operator of sums reads something. -/
theorem consumes_sumSign : sumSign.Consumes := (consumes_signOf _).orElse (consumes_signOf _)

/-- An operator of products reads something. -/
theorem consumes_productSign : productSign.Consumes :=
  (consumes_signOf _).orElse (consumes_signOf _)

/-- A sign in front of an operand. -/
def unarySign : Reader UnaryOperator :=
  (do let _ ← char '!'; return .not) <|> (do let _ ← char '-'; return .negate)

/-! ### Operands that begin with a name -/

/-- The target of a cast. -/
def castTarget : Reader CastTarget :=
  (do keyword "int"; return .int) <|> (do keyword "string"; return .string) <|>
    (do keyword "bool"; return .bool)

/-- What may follow a property: a question whether it has a value, or a cast. -/
def propertySuffix : Reader PropertyAccess :=
  (do sign '.'; commit (keyword "is_resolved"); return .isResolved) <|>
  (do
    layout
    keyword "as"
    let target ← commit (do layout; castTarget)
    return .cast target)

variable [RegexEngine]

/-- A property, behind its opening parenthesis. -/
def propertyRest : Reader Expr := do
  let name ← remarking (.wanted "quoted property name") do
    layout
    let name ← quoted
    sign ')'
    return name
  let access ← optional propertySuffix
  return .property name (access.getD .raw)

/-- What is asked about the nodes of a relation: their number, or how many of them
satisfy a condition. -/
def relationQuestion : Reader (Option Quantifier) :=
  (do keyword "length"; return none) <|>
  (do keyword "any"; return some .any) <|>
  (do keyword "all"; return some .all) <|>
  (do keyword "none"; return some .none)

/-- A question about the nodes of a relation, behind its point. -/
def relationRest (inner : Reader Expr) (relation : Relation) : Reader Expr := do
  layout
  match ← relationQuestion with
  | none => return .count relation
  | some quantifier =>
    sign '('
    let body ← inner
    sign ')'
    return .quantified relation quantifier body

/-- What a name means that has neither a parenthesis nor a point behind it. -/
def plainName (name : String) : Expr :=
  match NodeState.ofWord? name with
  | some state => .state state
  | none => .name name

/-- A relation's name with a question behind a point, or any other name. -/
def relationOrName (inner : Reader Expr) (name : String) : Reader Expr :=
  match Relation.ofWord? name with
  | none => return plainName name
  | some relation => do
    match ← optional (sign '.') with
    | some _ => commit (relationRest inner relation)
    | none => return plainName name

/-- Everything that begins with a name: truth values, properties, questions about
related nodes, states and bare names. -/
def named (inner : Reader Expr) : Reader Expr := do
  let name ← identifier
  if name = "true" then return .literal (.bool true)
  else if name = "false" then return .literal (.bool false)
  else if name = "prop" then
    match ← optional (sign '(') with
    | some _ => commit propertyRest
    | none => relationOrName inner name
  else relationOrName inner name

/-! ### Levels -/

/-- An expression between parentheses. -/
def parenthesized (inner : Reader Expr) : Reader Expr := do
  let _ ← char '('
  let expr ← commit inner
  commit (sign ')')
  return expr

/-- An operand without a sign in front. -/
def primary (inner : Reader Expr) : Reader Expr := do
  layout
  remarking (.wanted "expression") <|
    parenthesized inner <|>
    (do let content ← quoted; return .literal (.string content)) <|>
    (do let value ← number; return .literal value) <|>
    named inner

/-- The longest run of signs in front of one operand. -/
def signLimit : Nat := 32

/-- An operand with the signs in front of it; the last sign applies first. -/
def signed (inner : Reader Expr) : Reader Expr := do
  let signs ← manyUpTo (do layout; unarySign) signLimit
  let operand ←
    if signs.isEmpty then primary inner
    else remarking (.reading "prefix operand") (commit (primary inner))
  return signs.foldr .unary operand

/-- An operator and the operand on its right, which has to follow. -/
def chainStep (operand : Reader Expr) (operator : Reader BinaryOperator) :
    Reader (BinaryOperator × Expr) := do
  layout
  let joint ← operator
  let next ← commit operand
  return (joint, next)

/-- A further operand of a chain reads at least the operator in front of it. -/
theorem consumes_chainStep (operand : Reader Expr) {operator : Reader BinaryOperator}
    (consumes : operator.Consumes) : (chainStep operand operator).Consumes :=
  consumes_bind_next layout fun _ => consumes.bind _

/-- Operands joined from the left by the operators of one level. -/
def chain (operand : Reader Expr) (operator : Reader BinaryOperator)
    (consumes : operator.Consumes) : Reader Expr := do
  let first ← operand
  let others ← many (chainStep operand operator) (consumes_chainStep operand consumes)
  return others.foldl (fun left other => .binary other.1 left other.2) first

/-- Signed operands joined by multiplication and division. -/
def product (inner : Reader Expr) : Reader Expr :=
  chain (signed inner) productSign consumes_productSign

/-- Products joined by addition and subtraction. -/
def sum (inner : Reader Expr) : Reader Expr := chain (product inner) sumSign consumes_sumSign

/-- Sums joined by operators of order. -/
def comparison (inner : Reader Expr) : Reader Expr :=
  chain (sum inner) orderSign consumes_orderSign

/-- An expression with what stands on its left: a quoted pattern behind `matches` is
compiled here and now, so that a faulty one refuses the rule. -/
def matchOperand (operand : Expr) : Except (Option Pattern.Fault) (Expr → Expr) :=
  match operand with
  | .literal (.string source) =>
    match Pattern.compile source with
    | .ok pattern => .ok fun subject => .search subject pattern
    | .error fault => .error (some fault)
  | other => .ok fun subject => .binary .matching subject other

/-- An operator of the equality level and its right operand, as what they make of the
expression on their left. -/
def equalityStep (inner : Reader Expr) : Reader (Expr → Expr) := do
  layout
  let operator ← equalitySign
  if operator = .matching then
    remarking (.reading "matches operand") <| commit do
      layout
      (comparison inner).checked matchOperand
  else do
    let right ← commit (comparison inner)
    return fun left => .binary operator left right

/-- A further operand of an equality reads at least the operator in front of it. -/
theorem consumes_equalityStep (inner : Reader Expr) : (equalityStep inner).Consumes :=
  consumes_bind_next layout fun _ => consumes_equalitySign.bind _

/-- Comparisons joined by operators of equality, from the left. -/
def equality (inner : Reader Expr) : Reader Expr := do
  let first ← comparison inner
  let steps ← many (equalityStep inner) (consumes_equalityStep inner)
  return steps.foldl (fun left step => step left) first

/-- Equalities joined by the logical and. -/
def conjunction (inner : Reader Expr) : Reader Expr :=
  chain (equality inner) conjunctionSign (consumes_signOf _)

/-- Conjunctions joined by the logical or. -/
def disjunction (inner : Reader Expr) : Reader Expr :=
  chain (conjunction inner) disjunctionSign (consumes_signOf _)

/-- An expression in which so many parentheses may be open at once. -/
def expression : Nat → Reader Expr
  | 0 => disjunction overNested
  | depth + 1 => disjunction (expression depth)

end WidgetAudit.Grammar
