import WidgetAudit.Host
import WidgetAudit.KindTable
import WidgetAudit.Rule
import WidgetAudit.Text.Lowercase
import WidgetAudit.Text.Part

/-!
# Evaluation

What an expression is worth at a node of a host, and whether a rule holds there. An
evaluation either gives a value or ends with a fault; a fault says that the rule asks for
something that cannot be computed, not that the node breaks the rule.

Logical operators and quantifiers look at no more than they need: an operand or a node that
cannot change the result is not evaluated, and a fault in it does not show. How deep
quantifiers may nest can be limited.
-/

namespace WidgetAudit

/-- Why an expression has no value. -/
inductive EvaluationFault
  | cannotNegate (kind : String)
  | cannotApply (operator : BinaryOperator) (left right : String)
  | divisionByZero
  | invalidPattern (source : String) (fault : Pattern.Fault)
  | tooDeep (limit : Nat)
deriving DecidableEq

/-- The message about a fault. -/
def EvaluationFault.message : EvaluationFault → String
  | .cannotNegate kind => "type error: cannot negate " ++ kind
  | .cannotApply operator left right =>
    "type error: cannot apply '" ++ operator.sign ++ "' to " ++ left ++ " and " ++ right
  | .divisionByZero => "division by zero"
  | .invalidPattern source fault =>
    "invalid regex pattern '" ++ source ++ "': " ++ fault.message
  | .tooDeep limit => "relation nesting exceeds the depth limit of " ++ toString limit

/-- What an evaluation comes to. -/
abbrev Outcome (α : Type) := Except EvaluationFault α

namespace Value

/-! ### Operators on values -/

/-- The negated number. The least whole number has no counterpart, and becomes a
floating-point number. -/
def negated (value : Value) : Outcome Value :=
  match value.numeric? with
  | some (.int number) =>
    match int64? (-number.toInt) with
    | some result => .ok (.int result)
    | none => .ok (.float (Binary64.ofInt number.toInt).neg)
  | some (.float number) => .ok (.float number.neg)
  | none => .error (.cannotNegate value.kind)

/-- How two values compare as numbers. Whole numbers compare exactly, others as
floating-point numbers. -/
def order? (left right : Value) : Option Ordering :=
  match left.numeric?, right.numeric? with
  | some (.int first), some (.int second) => some (compare first.toInt second.toInt)
  | some first, some second => first.toBinary64.order? second.toBinary64
  | _, _ => none

/-- Whether an order is one of those that an operator wants; values without order have
none of them. -/
def isOrdered (wanted : Ordering → Bool) (left right : Value) : Bool :=
  match left.order? right with
  | some order => wanted order
  | none => false

/-- A sum, difference or product: exact on whole numbers as long as the result fits, and
otherwise the operation on floating-point numbers. -/
def arithmetic (operator : BinaryOperator) (exact : Int → Int → Int)
    (rounded : Binary64 → Binary64 → Binary64) (left right : Value) : Outcome Value :=
  match left.numeric?, right.numeric? with
  | some first, some second =>
    let approximate := Value.float (rounded first.toBinary64 second.toBinary64)
    match first, second with
    | .int first, .int second =>
      match int64? (exact first.toInt second.toInt) with
      | some result => .ok (.int result)
      | none => .ok approximate
    | _, _ => .ok approximate
  | _, _ => .error (.cannotApply operator left.kind right.kind)

/-- A quotient, which is always a floating-point number. -/
def quotient (left right : Value) : Outcome Value :=
  match left.numeric?, right.numeric? with
  | some first, some second =>
    let divisor := second.toBinary64
    if divisor.isZero then .error .divisionByZero
    else .ok (.float (first.toBinary64.div divisor))
  | _, _ => .error (.cannotApply .divide left.kind right.kind)

/-- The text of a value without blanks around it and in small letters. -/
def looseText (value : Value) : List Char := Text.lowercase (Text.trim value.text.toList)

/-- Whether the text of a value contains another text. The null value contains nothing. -/
def containsText (left right : Value) : Bool :=
  !left.isNull && Text.isPartOf right.text.toList left.text.toList

variable [RegexEngine]

/-- Whether a pattern is found in the text of a value; in the null value none is. -/
def isFound (pattern : Pattern) (value : Value) : Bool :=
  !value.isNull && pattern.matchesIn value.text

/-- Whether the pattern that a value writes is found. The pattern is not looked at when the
text to be searched is null. -/
def isFoundAs (left right : Value) : Outcome Bool :=
  if left.isNull then .ok false
  else match Pattern.compile right.text with
    | .ok pattern => .ok (pattern.matchesIn left.text)
    | .error fault => .error (.invalidPattern right.text fault)

/-- The result of a binary operator on two values. -/
def combine (left right : Value) : BinaryOperator → Outcome Value
  | .or => .ok (.bool (left.isTrue || right.isTrue))
  | .and => .ok (.bool (left.isTrue && right.isTrue))
  | .equal => .ok (.bool (left.equals right))
  | .notEqual => .ok (.bool (!left.equals right))
  | .looselyEqual => .ok (.bool (left.looseText == right.looseText))
  | .contains => .ok (.bool (left.containsText right))
  | .matching => (left.isFoundAs right).map .bool
  | .less => .ok (.bool (isOrdered Ordering.isLT left right))
  | .lessOrEqual => .ok (.bool (isOrdered Ordering.isLE left right))
  | .greater => .ok (.bool (isOrdered Ordering.isGT left right))
  | .greaterOrEqual => .ok (.bool (isOrdered Ordering.isGE left right))
  | .add => arithmetic .add (· + ·) .add left right
  | .subtract => arithmetic .subtract (· - ·) .sub left right
  | .multiply => arithmetic .multiply (· * ·) .mul left right
  | .divide => left.quotient right

end Value

namespace Host

variable {ν : Type}

/-! ### Reading nodes -/

/-- Whether a state holds at a node. -/
def holds (host : Host ν) (node : ν) : NodeState → Bool
  | .focusable => host.isFocusable node
  | .enabled => host.isEnabled node
  | .hidden => host.isHidden node
  | .checked => host.isChecked node
  | .toggled => host.isToggled node
  | .mergesDescendants => host.mergesDescendants node
  | .hasTap => host.hasTap node
  | .hasLongPress => host.hasLongPress node
  | .isEmpty => host.isEmpty node
  | .isNotEmpty => !host.isEmpty node

/-- The value that a name has at a node: its role, its widget type under two names, or else
a property. -/
def valueOf (host : Host ν) (node : ν) (name : String) : Value :=
  if name = "role" then .string (host.role node)
  else if name = "widgetType" ∨ name = "type" then .string (host.type node)
  else (host.property? node name).getD .null

/-- A property as an expression reads it. -/
def read (host : Host ν) (node : ν) (name : String) : PropertyAccess → Value
  | .raw => host.valueOf node name
  | .cast target => (host.valueOf node name).cast target
  | .isResolved => .bool (host.isResolved node name)

/-- The nodes that stand in a relation to a node. -/
def related (host : Host ν) (node : ν) : Relation → List ν
  | .children => host.children node
  | .ancestors => host.ancestors node
  | .siblings => host.siblings node
  | .nextFocus => host.nextFocus node
  | .previousFocus => host.previousFocus node

end Host

namespace Quantifier

variable {ν : Type}

/-- Whether as many nodes as the quantifier wants satisfy a condition. The first node that
settles the question ends the search. -/
def decide (quantifier : Quantifier) (condition : ν → Outcome Bool) : List ν → Outcome Bool
  | [] => .ok (quantifier != .any)
  | node :: others => do
    let isHit ← condition node
    match quantifier, isHit with
    | .any, true => return true
    | .all, false => return false
    | .none, true => return false
    | _, _ => decide quantifier condition others

end Quantifier

namespace Expr

variable {ν : Type}

/-- The depth inside one more quantifier, if the limit admits it. -/
def descend (limit : Option Nat) (depth : Nat) : Outcome Nat :=
  match limit with
  | some limit => if limit < depth + 1 then .error (.tooDeep limit) else .ok (depth + 1)
  | none => .ok (depth + 1)

variable [RegexEngine]

/-- The value of an expression at a node, inside so many quantifiers. -/
def evaluateAt (host : Host ν) (limit : Option Nat) : Expr → Nat → ν → Outcome Value
  | .literal value, _, _ => .ok value
  | .state fact, _, node => .ok (.bool (host.holds node fact))
  | .property key access, _, node => .ok (host.read node key access)
  | .name identifier, _, node => .ok (host.valueOf node identifier)
  | .unary .not operand, depth, node => do
    let value ← evaluateAt host limit operand depth node
    return .bool !value.isTrue
  | .unary .negate operand, depth, node => do
    let value ← evaluateAt host limit operand depth node
    value.negated
  | .binary .and left right, depth, node => do
    let first ← evaluateAt host limit left depth node
    if first.isTrue then
      let second ← evaluateAt host limit right depth node
      return .bool second.isTrue
    else
      return .bool false
  | .binary .or left right, depth, node => do
    let first ← evaluateAt host limit left depth node
    if first.isTrue then
      return .bool true
    else
      let second ← evaluateAt host limit right depth node
      return .bool second.isTrue
  | .binary operator left right, depth, node => do
    let first ← evaluateAt host limit left depth node
    let second ← evaluateAt host limit right depth node
    first.combine second operator
  | .search subject pattern, depth, node => do
    let value ← evaluateAt host limit subject depth node
    return .bool (value.isFound pattern)
  | .quantified relation quantifier body, depth, node => do
    let inside ← descend limit depth
    let condition (other : ν) : Outcome Bool := do
      let value ← evaluateAt host limit body inside other
      return value.isTrue
    return .bool (← quantifier.decide condition (host.related node relation))
  | .count relation, _, node =>
    .ok (.int ((int64? (host.related node relation).length).getD Int64.maxValue))

/-- The value of an expression at a node. -/
def evaluate (host : Host ν) (limit : Option Nat) (expr : Expr) (node : ν) : Outcome Value :=
  expr.evaluateAt host limit 0 node

end Expr

/-- What rules are evaluated with: the kinds that selectors may name, and how deep
quantifiers may nest. -/
structure Interpreter where
  kinds : KindTable := .standard
  depthLimit : Option Nat := none

namespace Interpreter

variable {ν : Type}

/-- Whether a selector picks a node. -/
def selects (interpreter : Interpreter) (host : Host ν) (node : ν) : Selector → Bool
  | .any => true
  | .role name => host.role node == name
  | .type name => host.type node == name
  | .kind name => interpreter.kinds.covers name (host.role node)

variable [RegexEngine]

/-- Whether a rule is about a node. -/
def applies (interpreter : Interpreter) (host : Host ν) (rule : Rule) (node : ν) : Bool :=
  rule.selectors.any (interpreter.selects host node)

/-- Whether a rule's guard admits a node; without a guard every node is admitted. -/
def admits (interpreter : Interpreter) (host : Host ν) (rule : Rule) (node : ν) : Outcome Bool :=
  match rule.guard with
  | none => .ok true
  | some guard => do
    let value ← guard.evaluate host interpreter.depthLimit node
    return value.isTrue

/-- Whether a rule holds at a node. It holds at every node that it is not about. -/
def evaluate (interpreter : Interpreter) (host : Host ν) (rule : Rule) (node : ν) :
    Outcome Bool := do
  if !interpreter.applies host rule node then return true
  if !(← interpreter.admits host rule node) then return true
  let value ← rule.ensure.evaluate host interpreter.depthLimit node
  return value.isTrue

end Interpreter

end WidgetAudit
