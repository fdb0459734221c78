import WidgetAudit.Evaluation
import WidgetAudit.Proofs.Expr.Mentions
import WidgetAudit.Proofs.Expr.Parts

/-!
# Where faults come from

A fault is raised by one construct of an expression and handed on by all around it. So whoever
meets a fault can find the part of the rule that it comes from: a sign of negation, an arithmetical
operator, a search for a pattern that is computed, or a quantifier that the limit stops.

`RaisedIn` says of a fault which part has raised it. That faults are only handed on elsewhere is one
law for each way of putting outcomes together (`FaultsWithin`).
-/

namespace WidgetAudit

variable {α β ν : Type}

/-! ### Faults of an outcome -/

/-- Every fault with which the outcome may end is admitted. -/
def FaultsWithin (admitted : EvaluationFault → Prop) (outcome : Outcome α) : Prop :=
  ∀ fault, outcome = .error fault → admitted fault

namespace FaultsWithin

variable {admitted : EvaluationFault → Prop}

/-- A value is no fault. -/
theorem ok (value : α) : FaultsWithin admitted (.ok value : Outcome α) := by
  intro fault impossible
  cases impossible

/-- Of the second part of a sequence only the value need be considered that the first one has. -/
theorem bind_of_ok {first : Outcome α} {next : α → Outcome β}
    (within : FaultsWithin admitted first)
    (nextWithin : ∀ value, first = .ok value → FaultsWithin admitted (next value)) :
    FaultsWithin admitted (first >>= next) := by
  intro fault ends
  cases first with
  | error own =>
    cases ends
    exact within fault rfl
  | ok value => exact nextWithin value rfl fault ends

/-- The faults of a sequence are those of its parts. -/
protected theorem bind {first : Outcome α} {next : α → Outcome β}
    (within : FaultsWithin admitted first)
    (nextWithin : ∀ value, FaultsWithin admitted (next value)) :
    FaultsWithin admitted (first >>= next) :=
  within.bind_of_ok fun value _ => nextWithin value

/-- The faults of a quantifier are those of its condition. -/
theorem decide (quantifier : Quantifier) {condition : ν → Outcome Bool}
    (each : ∀ node, FaultsWithin admitted (condition node)) (nodes : List ν) :
    FaultsWithin admitted (quantifier.decide condition nodes) := by
  induction nodes with
  | nil => exact .ok _
  | cons node others inductionHypothesis =>
    refine (each node).bind fun isHit => ?_
    cases quantifier <;> cases isHit <;> first
      | exact .ok _
      | exact inductionHypothesis

end FaultsWithin

/-! ### Operators on values -/

/-- Whether an operator calculates with numbers. -/
def BinaryOperator.isArithmetic : BinaryOperator → Bool
  | .add | .subtract | .multiply | .divide => true
  | _ => false

namespace Value

/-- An arithmetical operator other than division only refuses operands that are no numbers. -/
theorem arithmetic_fails {operator : BinaryOperator} {exact : Int → Int → Int}
    {rounded : Binary64 → Binary64 → Binary64} {left right : Value} {fault : EvaluationFault}
    (fails : arithmetic operator exact rounded left right = .error fault) :
    fault = .cannotApply operator left.kind right.kind := by
  unfold arithmetic at fails
  split at fails
  · split at fails
    · split at fails <;> cases fails
    · cases fails
  · cases fails
    rfl

variable [RegexEngine]

/-- What an operator on values cannot do: search for a text that is no pattern, divide by zero,
or calculate with what is no number. -/
theorem combine_fails {operator : BinaryOperator} {left right : Value} {fault : EvaluationFault}
    (fails : left.combine right operator = .error fault) :
    (operator = .matching ∧ ∃ own, Pattern.compile right.text = .error own ∧
        fault = .invalidPattern right.text own) ∨
      (operator = .divide ∧ fault = .divisionByZero) ∨
      operator.isArithmetic = true ∧ fault = .cannotApply operator left.kind right.kind := by
  cases operator with
  | matching =>
    simp only [combine, isFoundAs] at fails
    split at fails
    · cases fails
    · split at fails
      · cases fails
      · rename_i own faulty
        cases fails
        exact .inl ⟨rfl, own, faulty, rfl⟩
  | add => exact .inr (.inr ⟨rfl, arithmetic_fails fails⟩)
  | subtract => exact .inr (.inr ⟨rfl, arithmetic_fails fails⟩)
  | multiply => exact .inr (.inr ⟨rfl, arithmetic_fails fails⟩)
  | divide =>
    simp only [combine, quotient] at fails
    split at fails
    · split at fails <;> cases fails
      exact .inr (.inl ⟨rfl, rfl⟩)
    · cases fails
      exact .inr (.inr ⟨rfl, rfl⟩)
  | _ => cases fails

end Value

/-! ### Expressions -/

variable [RegexEngine]

/-- Which part of an expression raises a fault, and for what reason. The pattern of a search is
the text of a value that has been computed at some node. -/
inductive RaisedIn (host : Host ν) (limit : Option Nat) (whole : Expr) : EvaluationFault → Prop
  | negation {operand : Expr} {kind : String}
      (member : .unary .negate operand ∈ whole.parts) :
      RaisedIn host limit whole (.cannotNegate kind)
  | arithmetic {operator : BinaryOperator} {left right : Expr} {leftKind rightKind : String}
      (member : .binary operator left right ∈ whole.parts)
      (isArithmetic : operator.isArithmetic = true) :
      RaisedIn host limit whole (.cannotApply operator leftKind rightKind)
  | division {left right : Expr} (member : .binary .divide left right ∈ whole.parts) :
      RaisedIn host limit whole .divisionByZero
  | pattern {left right : Expr} {depth : Nat} {place : ν} {value : Value} {own : Pattern.Fault}
      (member : .binary .matching left right ∈ whole.parts)
      (computed : right.evaluateAt host limit depth place = .ok value)
      (faulty : Pattern.compile value.text = .error own) :
      RaisedIn host limit whole (.invalidPattern value.text own)
  | nesting {bound : Nat} (limited : limit = some bound) :
      RaisedIn host limit whole (.tooDeep bound)

namespace Expr

variable {host : Host ν} {limit : Option Nat} {whole : Expr}

/-- A value that cannot be negated is a fault of the sign. -/
theorem negated_raisedIn {operand : Expr} (member : .unary .negate operand ∈ whole.parts)
    (value : Value) : FaultsWithin (RaisedIn host limit whole) value.negated := by
  intro fault fails
  unfold Value.negated at fails
  split at fails
  · split at fails <;> cases fails
  · cases fails
  · cases fails
    exact .negation member

/-- Two values that cannot be combined are a fault of the operator. -/
theorem combine_raisedIn {operator : BinaryOperator} {left right : Expr}
    (member : .binary operator left right ∈ whole.parts) {depth : Nat} {place : ν}
    (first : Value) {second : Value}
    (computed : right.evaluateAt host limit depth place = .ok second) :
    FaultsWithin (RaisedIn host limit whole) (first.combine second operator) := by
  intro fault fails
  obtain ⟨rfl, own, faulty, rfl⟩ | ⟨rfl, rfl⟩ | ⟨isArithmetic, rfl⟩ := Value.combine_fails fails
  · exact .pattern member computed faulty
  · exact .division member
  · exact .arithmetic member isArithmetic

/-- A quantifier is stopped by the limit alone. -/
theorem descend_raisedIn (host : Host ν) (limit : Option Nat) (whole : Expr) (depth : Nat) :
    FaultsWithin (RaisedIn host limit whole) (descend limit depth) := by
  intro fault fails
  unfold descend at fails
  split at fails
  · split at fails <;> cases fails
    exact .nesting rfl
  · cases fails

/-- An operator that is not a logical one evaluates both operands, the left one first. -/
theorem evaluateAt_binary {operator : BinaryOperator} (noAnd : operator ≠ .and)
    (noOr : operator ≠ .or) (host : Host ν) (limit : Option Nat) (left right : Expr)
    (depth : Nat) (node : ν) :
    (Expr.binary operator left right).evaluateAt host limit depth node = (do
      let first ← left.evaluateAt host limit depth node
      let second ← right.evaluateAt host limit depth node
      first.combine second operator) := by
  cases operator <;> first
    | exact absurd rfl noAnd
    | exact absurd rfl noOr
    | rfl

/-- Where both operands have a value, an operator has the value that it makes of these. -/
theorem evaluateAt_operands {operator : BinaryOperator} (noAnd : operator ≠ .and)
    (noOr : operator ≠ .or) {left right : Expr} {depth : Nat} {node : ν} {first second : Value}
    (leftValue : left.evaluateAt host limit depth node = .ok first)
    (rightValue : right.evaluateAt host limit depth node = .ok second) :
    (binary operator left right).evaluateAt host limit depth node =
      first.combine second operator := by
  rw [evaluateAt_binary noAnd noOr, leftValue, rightValue]
  rfl

/-- Every fault comes from a part of the expression.

Induct over a part of the whole expression, for every depth and every node; what stands inside the
part is a part of the whole as well. -/
theorem evaluateAt_raisedIn (part : Expr) (inside : part.parts ⊆ whole.parts) (depth : Nat)
    (node : ν) : FaultsWithin (RaisedIn host limit whole)
      (part.evaluateAt host limit depth node) := by
  have member := inside (mem_parts_self part)
  induction part generalizing depth node with
  | unary operator operand inductionHypothesis =>
    have below : operand.parts ⊆ whole.parts := fun _ isPart => inside (.tail _ isPart)
    have operandFaults := inductionHypothesis below depth node (below (mem_parts_self operand))
    cases operator with
    | not => exact operandFaults.bind fun _ => .ok _
    | negate => exact operandFaults.bind fun value => negated_raisedIn member value
  | binary operator left right leftHypothesis rightHypothesis =>
    have belowLeft : left.parts ⊆ whole.parts :=
      fun _ isPart => inside (.tail _ (List.mem_append_left _ isPart))
    have belowRight : right.parts ⊆ whole.parts :=
      fun _ isPart => inside (.tail _ (List.mem_append_right _ isPart))
    have leftFaults := leftHypothesis belowLeft depth node (belowLeft (mem_parts_self left))
    have rightFaults := rightHypothesis belowRight depth node (belowRight (mem_parts_self right))
    -- both logical operators evaluate the right operand only if the left one leaves it open
    have second : FaultsWithin (RaisedIn host limit whole) (do
        let value ← right.evaluateAt host limit depth node
        return Value.bool value.isTrue) := rightFaults.bind fun _ => .ok _
    by_cases isAnd : operator = .and
    · subst isAnd
      refine leftFaults.bind fun first => ?_
      split
      · exact second
      · exact .ok _
    by_cases isOr : operator = .or
    · subst isOr
      refine leftFaults.bind fun first => ?_
      split
      · exact .ok _
      · exact second
    rw [evaluateAt_binary isAnd isOr]
    exact leftFaults.bind fun first => rightFaults.bind_of_ok fun _ computed =>
      combine_raisedIn member first computed
  | search subject pattern inductionHypothesis =>
    have below : subject.parts ⊆ whole.parts := fun _ isPart => inside (.tail _ isPart)
    exact (inductionHypothesis below depth node (below (mem_parts_self subject))).bind
      fun _ => .ok _
  | quantified relation quantifier body inductionHypothesis =>
    have below : body.parts ⊆ whole.parts := fun _ isPart => inside (.tail _ isPart)
    refine (descend_raisedIn host limit whole depth).bind fun inner => ?_
    refine FaultsWithin.bind (.decide quantifier (fun place => ?_) _) fun _ => .ok _
    exact (inductionHypothesis below inner place (below (mem_parts_self body))).bind
      fun _ => .ok _
  | _ => exact .ok _

end Expr

/-! ### Rules -/

/-- The faults of a rule are those of its expressions: its guard, which is evaluated first, and its
assertion. -/
theorem Interpreter.evaluate_faultsWithin {admitted : EvaluationFault → Prop}
    {interpreter : Interpreter} {host : Host ν} {rule : Rule} {node : ν}
    (each : ∀ expr ∈ rule.expressions,
      FaultsWithin admitted (expr.evaluate host interpreter.depthLimit node)) :
    FaultsWithin admitted (interpreter.evaluate host rule node) := by
  have guarded : FaultsWithin admitted (interpreter.admits host rule node) := by
    unfold Interpreter.admits
    split
    · exact .ok _
    · rename_i guard present
      exact (each guard (by simp [Rule.expressions, present])).bind fun _ => .ok _
  unfold Interpreter.evaluate
  split
  · exact .ok _
  · refine guarded.bind fun isAdmitted => ?_
    split
    · exact .ok _
    · exact (each rule.ensure (by simp [Rule.expressions])).bind fun _ => .ok _

/-- A fault of a rule is raised in its guard or in its assertion. -/
theorem Rule.evaluate_raisedIn (interpreter : Interpreter) (host : Host ν) (rule : Rule)
    (node : ν) : FaultsWithin (fun fault => ∃ expr ∈ rule.expressions,
      RaisedIn host interpreter.depthLimit expr fault) (interpreter.evaluate host rule node) :=
  Interpreter.evaluate_faultsWithin fun expr member fault fails =>
    ⟨expr, member, Expr.evaluateAt_raisedIn expr (List.Subset.refl _) 0 node fault fails⟩

end WidgetAudit
