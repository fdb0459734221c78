import WidgetAudit.Proofs.Evaluation.Faults
import WidgetAudit.Widget.Tree

/-!
# What a limit on the depth can do

A limit on nested quantifiers is looked at wherever a quantifier begins, before any related
node is. Between two such places an evaluation may end early: a logical operator or a
quantifier that is settled looks no further, and any fault ends it. So it has to be shown that
the evaluation with a limit goes the same way as the one without, up to the place where the
limit stops it, and that nothing goes on from there.

`CutShort` relates two outcomes in this way. It is kept by sequencing, hence by every construct,
and one induction over expressions gives it for each pair of limits of which the second is the
looser one. The nesting that counts is that of the text of the rule: how many nodes a quantifier
leads to makes no difference.
-/

namespace WidgetAudit

variable {α β ν : Type}

/-! ### Outcomes -/

/-- The first outcome is the second one, or the limit has stopped it. -/
def CutShort (limit : Nat) (cut whole : Outcome α) : Prop :=
  cut = .error (.tooDeep limit) ∨ cut = whole

namespace CutShort

variable {limit : Nat}

/-- Without a stop the two outcomes are the same. -/
protected theorem refl (outcome : Outcome α) : CutShort limit outcome outcome := .inr rfl

/-- Nothing goes on behind a stop, and no other fault is lost. -/
protected theorem bind {cut whole : Outcome α} {next wholeNext : α → Outcome β}
    (first : CutShort limit cut whole)
    (later : ∀ value, CutShort limit (next value) (wholeNext value)) :
    CutShort limit (cut >>= next) (whole >>= wholeNext) := by
  rcases first with rfl | rfl
  · exact .inl rfl
  · cases cut with
    | error fault => exact .inr rfl
    | ok value => exact later value

/-- What is made of a value afterwards does not matter. -/
protected theorem map {cut whole : Outcome α} (first : CutShort limit cut whole)
    (result : α → β) : CutShort limit (do return result (← cut)) (do return result (← whole)) :=
  first.bind fun _ => .refl _

/-- A quantifier stops at the same node, unless the limit has stopped it before. -/
theorem decide (quantifier : Quantifier) {condition whole : ν → Outcome Bool}
    (each : ∀ node, CutShort limit (condition node) (whole node)) (nodes : List ν) :
    CutShort limit (quantifier.decide condition nodes) (quantifier.decide whole nodes) := by
  induction nodes with
  | nil => exact .refl _
  | cons node others inductionHypothesis =>
    refine (each node).bind fun isHit => ?_
    cases quantifier <;> cases isHit <;> first
      | exact .refl _
      | exact inductionHypothesis

end CutShort

/-- A fault that no limit has raised. -/
def EvaluationFault.IsOfValues (fault : EvaluationFault) : Prop := ∀ limit, fault ≠ .tooDeep limit

/-! ### Limits -/

namespace Expr

/-- One limit is as strict as another one, if there is one at all. -/
def IsLooser (limit : Nat) (other : Option Nat) : Prop := ∀ more, other = some more → limit ≤ more

/-- A limit stops a quantifier where a looser one may not; where it does not stop it, neither
does the looser one. -/
theorem descend_cutShort {limit : Nat} {other : Option Nat} (looser : IsLooser limit other)
    (depth : Nat) : CutShort limit (descend (some limit) depth) (descend other depth) := by
  unfold descend
  by_cases stopped : limit < depth + 1
  · exact .inl (if_pos stopped)
  · refine .inr ?_
    cases other with
    | none => exact if_neg stopped
    | some more =>
      have enough : limit ≤ more := looser more rfl
      have notStopped : ¬ more < depth + 1 := by omega
      dsimp only
      rw [if_neg stopped, if_neg notStopped]

end Expr

/-- What a limit may do to something of a given nesting, of which the outcome is known for each
limit and without one. -/
structure LimitOnlyCuts (outcome : Option Nat → Outcome α) (nesting : Nat) : Prop where
  /-- Under a limit the outcome is the same as without one, or the limit is exceeded. -/
  same_or_cut : ∀ limit, outcome (some limit) = .error (.tooDeep limit) ∨
    outcome (some limit) = outcome none
  /-- Without a limit no limit is exceeded. -/
  unlimited : ∀ limit, outcome none ≠ .error (.tooDeep limit)
  /-- A limit that admits the nesting is not exceeded. -/
  enough : ∀ limit, nesting ≤ limit → outcome (some limit) = outcome none
  /-- An outcome that is no excess of its limit is the outcome under every larger one. -/
  settled : ∀ limit more, limit ≤ more → outcome (some limit) ≠ .error (.tooDeep limit) →
    outcome (some more) = outcome (some limit)

/-- The four laws follow from the comparison with looser limits, from the faults that there can
be without one, and from the bound by the nesting. -/
theorem LimitOnlyCuts.of_cutShort {outcome : Option Nat → Outcome α} {nesting : Nat}
    (cut : ∀ limit other, Expr.IsLooser limit other →
      CutShort limit (outcome (some limit)) (outcome other))
    (faults : FaultsWithin EvaluationFault.IsOfValues (outcome none))
    (enough : ∀ limit, nesting ≤ limit → outcome (some limit) = outcome none) :
    LimitOnlyCuts outcome nesting where
  same_or_cut limit := cut limit none nofun
  unlimited limit exceeded := faults _ exceeded limit rfl
  enough := enough
  settled limit more le notCut := by
    have looser : Expr.IsLooser limit (some more) := by
      rintro _ ⟨⟩
      exact le
    rcases cut limit (some more) looser with isCut | same
    · exact absurd isCut notCut
    · exact same.symm

/-! ### Expressions -/

namespace Expr

variable [RegexEngine]

/-- How many quantifiers of an expression stand inside one another. -/
def quantifierDepth : Expr → Nat
  | .unary _ operand => operand.quantifierDepth
  | .binary _ left right => max left.quantifierDepth right.quantifierDepth
  | .search subject _ => subject.quantifierDepth
  | .quantified _ _ body => body.quantifierDepth + 1
  | _ => 0

variable {host : Host ν}

/-- An evaluation under a limit goes the way of one under a looser limit, or under none, until
the limit stops it.

Induct over the expression, for every depth and every node. Each construct evaluates its parts
in sequence, so the laws of sequences and of quantifiers carry the relation; only a quantifier
looks at the limit, and it does so first. -/
theorem evaluateAt_cutShort {limit : Nat} {other : Option Nat} (looser : IsLooser limit other)
    (expr : Expr) (depth : Nat) (node : ν) :
    CutShort limit (expr.evaluateAt host (some limit) depth node)
      (expr.evaluateAt host other depth node) := by
  induction expr generalizing depth node with
  | unary operator operand inductionHypothesis =>
    cases operator with
    | not => exact (inductionHypothesis depth node).map fun value => Value.bool !value.isTrue
    | negate => exact (inductionHypothesis depth node).bind fun _ => .refl _
  | binary operator left right leftHypothesis rightHypothesis =>
    have second := (rightHypothesis depth node).map fun value => Value.bool value.isTrue
    by_cases isAnd : operator = .and
    · subst isAnd
      refine (leftHypothesis depth node).bind fun first => ?_
      split
      · exact second
      · exact .refl _
    by_cases isOr : operator = .or
    · subst isOr
      refine (leftHypothesis depth node).bind fun first => ?_
      split
      · exact .refl _
      · exact second
    simp only [evaluateAt_binary isAnd isOr]
    exact (leftHypothesis depth node).bind fun _ =>
      (rightHypothesis depth node).bind fun _ => .refl _
  | search subject pattern inductionHypothesis =>
    exact (inductionHypothesis depth node).map fun value => Value.bool (value.isFound pattern)
  | quantified relation quantifier body inductionHypothesis =>
    refine (descend_cutShort looser depth).bind fun inside => ?_
    refine CutShort.map (.decide quantifier (fun place => ?_) _) Value.bool
    exact (inductionHypothesis inside place).map Value.isTrue
  | _ => exact .refl _

/-- Without a limit no evaluation stops at one: the fault of a limit is raised only where there is
one. -/
theorem evaluateAt_faults (expr : Expr) (depth : Nat) (node : ν) :
    FaultsWithin EvaluationFault.IsOfValues (expr.evaluateAt host none depth node) := by
  intro fault fails limit exceeded
  have raised := evaluateAt_raisedIn expr (List.Subset.refl _) depth node fault fails
  subst exceeded
  cases raised with
  | nesting limited => cases limited

/-- A limit that admits the nesting of the text makes no difference, whatever the nodes are.

Induct over the expression: the quantifiers inside a body are one fewer, and its depth is one
more. -/
theorem evaluateAt_enough {limit : Nat} (expr : Expr) (depth : Nat) (node : ν)
    (enough : depth + expr.quantifierDepth ≤ limit) :
    expr.evaluateAt host (some limit) depth node = expr.evaluateAt host none depth node := by
  induction expr generalizing depth node with
  | unary operator operand inductionHypothesis =>
    have same := inductionHypothesis depth node enough
    cases operator <;> simp only [evaluateAt, same]
  | binary operator left right leftHypothesis rightHypothesis =>
    simp only [quantifierDepth] at enough
    have sameLeft := leftHypothesis depth node (by omega)
    have sameRight := rightHypothesis depth node (by omega)
    cases operator <;> simp only [evaluateAt, sameLeft, sameRight]
  | search subject pattern inductionHypothesis =>
    simp only [evaluateAt, inductionHypothesis depth node enough]
  | quantified relation quantifier body inductionHypothesis =>
    simp only [quantifierDepth] at enough
    have admitted : descend (some limit) depth = .ok (depth + 1) :=
      if_neg (by omega : ¬ limit < depth + 1)
    have unlimited : descend none depth = .ok (depth + 1) := rfl
    have same (place : ν) := inductionHypothesis (depth + 1) place (by omega)
    simp only [evaluateAt, admitted, unlimited, bind, Except.bind, same]
  | _ => rfl

end Expr

/-! ### Rules -/

variable [RegexEngine]

/-- The nesting of quantifiers in a rule, in its guard or in its assertion. -/
def Rule.quantifierDepth (rule : Rule) : Nat :=
  max ((rule.guard.map Expr.quantifierDepth).getD 0) rule.ensure.quantifierDepth

namespace Interpreter

variable {host : Host ν}

/-- A rule under a limit goes the way of the rule under a looser limit, or under none: guard
and assertion are evaluated one after the other, each from the outermost depth. -/
theorem evaluate_cutShort {limit : Nat} {other : Option Nat} (looser : Expr.IsLooser limit other)
    (kinds : KindTable) (rule : Rule) (node : ν) :
    CutShort limit (evaluate ⟨kinds, some limit⟩ host rule node)
      (evaluate ⟨kinds, other⟩ host rule node) := by
  have asserted : CutShort limit (do
      let value ← rule.ensure.evaluate host (some limit) node
      return value.isTrue) (do
      let value ← rule.ensure.evaluate host other node
      return value.isTrue) := (Expr.evaluateAt_cutShort looser rule.ensure 0 node).map Value.isTrue
  have admitted : CutShort limit (admits ⟨kinds, some limit⟩ host rule node)
      (admits ⟨kinds, other⟩ host rule node) := by
    unfold admits
    split
    · exact .refl _
    · rename_i guard _
      exact (Expr.evaluateAt_cutShort looser guard 0 node).map Value.isTrue
  unfold evaluate applies selects
  split
  · exact .refl _
  · refine admitted.bind fun isAdmitted => ?_
    split
    · exact .refl _
    · exact asserted

/-- Without a limit no rule stops at one. -/
theorem evaluate_faults (kinds : KindTable) (rule : Rule) (node : ν) :
    FaultsWithin EvaluationFault.IsOfValues (evaluate ⟨kinds, none⟩ host rule node) :=
  evaluate_faultsWithin fun expr _ => expr.evaluateAt_faults 0 node

/-- A limit that admits the nesting of a rule makes no difference to it. -/
theorem evaluate_enough {limit : Nat} {rule : Rule} (enough : rule.quantifierDepth ≤ limit)
    (kinds : KindTable) (node : ν) :
    evaluate ⟨kinds, some limit⟩ host rule node = evaluate ⟨kinds, none⟩ host rule node := by
  obtain ⟨guardEnough, ensureEnough⟩ := Nat.max_le.mp enough
  have sameEnsure : rule.ensure.evaluate host (some limit) node =
      rule.ensure.evaluate host none node := by
    exact rule.ensure.evaluateAt_enough 0 node (by omega)
  have sameGuard : admits ⟨kinds, some limit⟩ host rule node =
      admits ⟨kinds, none⟩ host rule node := by
    unfold admits
    cases present : rule.guard with
    | none => rfl
    | some guard =>
      have within : guard.quantifierDepth ≤ limit := by simpa [present] using guardEnough
      have same : guard.evaluate host (some limit) node = guard.evaluate host none node :=
        guard.evaluateAt_enough 0 node (by omega)
      simp only [same]
  unfold evaluate applies selects
  simp only [sameGuard, sameEnsure]

end Interpreter

/-! ### All limits -/

/-- A limit on the depth can only turn an answer into the fault that the limit is exceeded. It
does so for no expression and no rule whose text nests quantifiers as deep as it admits, and an
answer that one limit leaves is the answer under every larger limit and under none. -/
theorem depth_limit_only_cuts (host : Host ν) (node : ν) :
    (∀ expr : Expr,
      LimitOnlyCuts (fun limit => expr.evaluate host limit node) expr.quantifierDepth) ∧
    ∀ (kinds : KindTable) (rule : Rule),
      LimitOnlyCuts (fun limit => Interpreter.evaluate ⟨kinds, limit⟩ host rule node)
        rule.quantifierDepth := by
  constructor
  · intro expr
    refine .of_cutShort ?_ (expr.evaluateAt_faults 0 node) ?_
    · intro limit other looser
      exact expr.evaluateAt_cutShort looser 0 node
    · intro limit enough
      exact expr.evaluateAt_enough 0 node (by omega)
  · intro kinds rule
    refine .of_cutShort ?_ (Interpreter.evaluate_faults kinds rule node) ?_
    · intro limit other looser
      exact Interpreter.evaluate_cutShort looser kinds rule node
    · intro limit enough
      exact Interpreter.evaluate_enough enough kinds node

/-- A question about the nodes inside the nodes inside a node. -/
def askingTwice : Expr := .quantified .children .any (.quantified .children .any (.state .hasTap))

-- A limit of one stops it at a node with a child, but not at a child without children.
example :
    let host := (WidgetTree.ofNested (.node default [.node default []])).host
    askingTwice.quantifierDepth = 2 ∧ askingTwice.evaluate host (some 1) 0 = .error (.tooDeep 1) ∧
      askingTwice.evaluate host (some 1) 1 = .ok (.bool false) :=
  ⟨rfl, rfl, rfl⟩

end WidgetAudit
