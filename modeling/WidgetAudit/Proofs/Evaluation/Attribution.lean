import WidgetAudit.Pattern.GapEngine
import WidgetAudit.Proofs.Evaluation.DepthLimit

/-!
# Faults and the text of a rule

Where a fault comes from is a part of the rule, and so it says something about the text: which
construct stands in it, or how deep its quantifiers nest. Read the other way round this bounds the
faults by the text alone, whatever the nodes are. A rule in which no construct stands that can fail
has a verdict at every node, if there is no limit: all comparisons, conversions and searches for a
pattern that has been compiled are total.
-/

namespace WidgetAudit

variable {ν : Type}

section AnyEngine

variable [RegexEngine]

/-- What a fault says about the text of an expression, whatever the nodes are: which construct stands
in it, or how deep its quantifiers nest. -/
def EvaluationFault.IsDueTo (limit : Option Nat) (expr : Expr) : EvaluationFault → Prop
  | .cannotNegate _ => ∃ operand, .unary .negate operand ∈ expr.parts
  | .cannotApply operator _ _ =>
    operator.isArithmetic = true ∧ ∃ left right, .binary operator left right ∈ expr.parts
  | .divisionByZero => ∃ left right, .binary .divide left right ∈ expr.parts
  | .invalidPattern source fault =>
    Pattern.compile source = .error fault ∧ ∃ left right, .binary .matching left right ∈ expr.parts
  | .tooDeep bound => limit = some bound ∧ bound < expr.quantifierDepth

namespace Expr

variable {host : Host ν} {limit : Option Nat}

/-- Only an expression whose quantifiers nest deeper than a limit is stopped by it. -/
theorem lt_quantifierDepth_of_tooDeep {expr : Expr} {bound : Nat} {node : ν}
    (stopped : expr.evaluate host (some bound) node = .error (.tooDeep bound)) :
    bound < expr.quantifierDepth := by
  refine Nat.lt_of_not_le fun shallow => ?_
  have enough : 0 + expr.quantifierDepth ≤ bound := by omega
  have unlimited : expr.evaluate host none node = .error (.tooDeep bound) :=
    (expr.evaluateAt_enough 0 node enough).symm.trans stopped
  exact expr.evaluateAt_faults 0 node _ unlimited bound rfl

/-- Every fault of an expression is due to it. -/
theorem evaluate_isDueTo (expr : Expr) (node : ν) :
    FaultsWithin (EvaluationFault.IsDueTo limit expr) (expr.evaluate host limit node) := by
  intro fault fails
  have raised := evaluateAt_raisedIn expr (List.Subset.refl _) 0 node fault fails
  cases raised with
  | negation member => exact ⟨_, member⟩
  | arithmetic member isArithmetic => exact ⟨isArithmetic, _, _, member⟩
  | division member => exact ⟨_, _, member⟩
  | pattern member _ faulty => exact ⟨faulty, _, _, member⟩
  | nesting limited =>
    subst limited
    exact ⟨rfl, lt_quantifierDepth_of_tooDeep fails⟩

/-- Whether a construct may have no value although its operands have one: negation, a calculation or
a search for a pattern that is computed. -/
def mayFail : Expr → Bool
  | .unary .negate _ => true
  | .binary operator _ _ => operator.isArithmetic || operator == .matching
  | _ => false

/-- Without a limit a fault is due to a part that may fail. -/
theorem exists_mayFail_of_isDueTo {expr : Expr} {fault : EvaluationFault}
    (due : fault.IsDueTo none expr) : ∃ part ∈ expr.parts, part.mayFail = true := by
  cases fault with
  | cannotNegate kind =>
    obtain ⟨operand, member⟩ := due
    exact ⟨_, member, rfl⟩
  | cannotApply operator leftKind rightKind =>
    obtain ⟨isArithmetic, left, right, member⟩ := due
    exact ⟨_, member, by simp only [mayFail, isArithmetic, Bool.true_or]⟩
  | divisionByZero =>
    obtain ⟨left, right, member⟩ := due
    exact ⟨_, member, rfl⟩
  | invalidPattern source own =>
    obtain ⟨_, left, right, member⟩ := due
    exact ⟨_, member, rfl⟩
  | tooDeep bound => exact absurd due.1 nofun

end Expr

/-- Every fault is attributable to a construct in the rule. If an expression has no value at a node
because something cannot be negated, there is a sign of negation in it; because an operator cannot
be applied, that operator, which is an arithmetical one; because of a division by zero, a division;
because of a faulty pattern, an operator that searches for a computed pattern, and the pattern is
faulty; because of the limit, its quantifiers nest deeper than the limit that there is. The faults
of a rule are due to its guard or its assertion in the same way. So a rule without negation,
calculations and computed patterns has a verdict at every node, if there is no limit.

Proof: a fault is raised in a part of the expression; and a limit that admits the nesting makes no
difference to an evaluation, which without a limit is never stopped by one. -/
theorem faults_are_attributable (host : Host ν) (node : ν) :
    (∀ (expr : Expr) (limit : Option Nat) (fault : EvaluationFault),
      expr.evaluate host limit node = .error fault → fault.IsDueTo limit expr) ∧
    (∀ (interpreter : Interpreter) (rule : Rule) (fault : EvaluationFault),
      interpreter.evaluate host rule node = .error fault →
        ∃ expr ∈ rule.expressions, fault.IsDueTo interpreter.depthLimit expr) ∧
    ∀ (interpreter : Interpreter) (rule : Rule), interpreter.depthLimit = none →
      (∀ expr ∈ rule.expressions, ∀ part ∈ expr.parts, part.mayFail = false) →
      ∃ verdict, interpreter.evaluate host rule node = .ok verdict := by
  have ofRule (interpreter : Interpreter) (rule : Rule) : FaultsWithin (fun fault =>
      ∃ expr ∈ rule.expressions, fault.IsDueTo interpreter.depthLimit expr)
      (interpreter.evaluate host rule node) :=
    Interpreter.evaluate_faultsWithin fun expr member fault fails =>
      ⟨expr, member, expr.evaluate_isDueTo node fault fails⟩
  refine ⟨?_, ofRule, ?_⟩
  · intro expr limit
    exact expr.evaluate_isDueTo node
  · intro interpreter rule unlimited safe
    cases outcome : interpreter.evaluate host rule node with
    | ok verdict => exact ⟨verdict, rfl⟩
    | error fault =>
      obtain ⟨expr, member, due⟩ := ofRule interpreter rule fault outcome
      rw [unlimited] at due
      obtain ⟨part, isPart, fails⟩ := Expr.exists_mayFail_of_isDueTo due
      exact absurd (safe expr member part isPart) (by simp [fails])

/-- The share of each child, unless there is none. -/
def share : Expr := .binary .divide (.literal (.int 1)) (.count .children)

/-- A rule about the share. -/
def fairShare : Rule where
  name := "share"
  selectors := [.any]
  details := .empty
  guard := some (.unary .not (.state .hidden))
  ensure := .binary .less (.literal (.int 0)) share
  report := "x"

/-- A rule that puts texts in an order, and asks whether a truth value contains the null value. -/
def oddComparisons : Rule where
  name := "odd"
  selectors := [.any]
  details := .empty
  guard := some (.binary .less (.name "label") (.literal (.string "wide")))
  ensure := .quantified .children .all (.binary .contains (.state .hidden) (.literal .null))
  report := "x"

end AnyEngine

/-- At a widget without children the share is a division by zero, the question about the children of
children is too deep for a limit of one at its parent, and the odd comparisons have a verdict. -/
theorem faults_are_attributable_share :
    let host := (WidgetTree.ofNested (.node default [.node default []])).host
    (share.evaluate host none 1 = .error .divisionByZero ∧
        EvaluationFault.divisionByZero.IsDueTo none share) ∧
      (askingTwice.evaluate host (some 1) 0 = .error (.tooDeep 1) ∧
        (EvaluationFault.tooDeep 1).IsDueTo (some 1) askingTwice) ∧
      (Interpreter.evaluate {} host fairShare 1 = .error .divisionByZero ∧
        ∃ expr ∈ fairShare.expressions, EvaluationFault.divisionByZero.IsDueTo none expr) ∧
      (∀ expr ∈ oddComparisons.expressions, ∀ part ∈ expr.parts, part.mayFail = false) ∧
      ∃ verdict, Interpreter.evaluate {} host oddComparisons 1 = .ok verdict := by
  intro host
  have divided : share.evaluate host none 1 = .error .divisionByZero := rfl
  have stopped : askingTwice.evaluate host (some 1) 0 = .error (.tooDeep 1) := rfl
  have ruleDivided : Interpreter.evaluate {} host fairShare 1 = .error .divisionByZero := rfl
  have safe : ∀ expr ∈ oddComparisons.expressions, ∀ part ∈ expr.parts, part.mayFail = false := by
    decide
  obtain ⟨ofExpr, ofRule, total⟩ := faults_are_attributable host 1
  exact ⟨⟨divided, ofExpr share none _ divided⟩,
    ⟨stopped, (faults_are_attributable host 0).1 askingTwice (some 1) _ stopped⟩,
    ⟨ruleDivided, ofRule {} fairShare _ ruleDivided⟩, safe, total {} oddComparisons rfl safe⟩

end WidgetAudit
