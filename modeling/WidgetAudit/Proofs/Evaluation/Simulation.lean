import Mathlib.Data.List.Forall2
import WidgetAudit.Proofs.Expr.Mentions
import WidgetAudit.Proofs.Widget.Sweep

/-!
# Hosts that rules cannot tell apart

Two hosts may keep their nodes in different ways: under other places, behind wrappers, or in a
larger tree. A rule sees only what it asks for. If nodes of the two hosts are paired so that paired
nodes give the same answers, and the nodes related to them are paired again, in the same order,
then the rule comes to the same at both of them; and the answers have to be the same only for what
the rule mentions.

The pairing is carried through the evaluation of an expression by one induction over it
(`Host.Simulates.evaluateAt_eq`), and through the steps of a sweep by one induction over these
(`Host.Simulates.sweep`). Rules, audits and audits of trees follow.
-/

namespace WidgetAudit

variable {ν μ : Type}

/-- Nodes of two hosts are paired so that paired nodes answer alike to all that is admitted. Role
and type are always asked for, since selectors and reports look at them. -/
structure Host.Simulates (first : Host ν) (second : Host μ) (Admitted : Mention → Prop)
    (Paired : ν → μ → Prop) : Prop where
  role : ∀ {node other}, Paired node other → first.role node = second.role other
  type : ∀ {node other}, Paired node other → first.type node = second.type other
  holds : ∀ {node other}, Paired node other → ∀ {fact}, Admitted (.state fact) →
    first.holds node fact = second.holds other fact
  property : ∀ {node other}, Paired node other → ∀ {name}, Admitted (.name name) →
    first.property? node name = second.property? other name
  resolved : ∀ {node other}, Paired node other → ∀ {name}, Admitted (.name name) →
    first.isResolved node name = second.isResolved other name
  related : ∀ {node other}, Paired node other → ∀ {relation}, Admitted (.relation relation) →
    List.Forall₂ Paired (first.related node relation) (second.related other relation)

/-- A quantifier over paired nodes stops at the same pair, if the conditions agree on each. -/
theorem Quantifier.decide_eq {Paired : ν → μ → Prop} (quantifier : Quantifier)
    {condition : ν → Outcome Bool} {otherCondition : μ → Outcome Bool}
    (same : ∀ node other, Paired node other → condition node = otherCondition other)
    {nodes : List ν} {others : List μ} (paired : List.Forall₂ Paired nodes others) :
    quantifier.decide condition nodes = quantifier.decide otherCondition others := by
  induction paired with
  | nil => rfl
  | cons pair _ inductionHypothesis =>
    simp only [decide, same _ _ pair, inductionHypothesis]

namespace Host.Simulates

variable {first : Host ν} {second : Host μ} {Admitted : Mention → Prop} {Paired : ν → μ → Prop}
  (simulates : first.Simulates second Admitted Paired)

include simulates

/-! ### Sweeps -/

/-- Sweeps that begin with paired stacks visit paired nodes, one pair a step, if it is admitted to
go to the children. -/
theorem sweep (downward : Admitted (.relation .children)) (limit : Nat) {nodes : List ν}
    {others : List μ} (paired : List.Forall₂ Paired nodes others) :
    List.Forall₂ Paired (first.sweep limit (stackOf nodes))
      (second.sweep limit (stackOf others)) := by
  induction limit generalizing nodes others with
  | zero => exact .nil
  | succ limit inductionHypothesis =>
    cases paired with
    | nil =>
      rw [sweep_empty, sweep_empty]
      exact .nil
    | cons pair behind =>
      rw [sweep_cons, sweep_cons]
      have inside := simulates.related pair downward
      exact .cons pair (inductionHypothesis (List.rel_append inside behind))

/-! ### Expressions -/

/-- A name has the same value at paired nodes. -/
theorem valueOf_eq {node : ν} {other : μ} (pair : Paired node other) {name : String}
    (admitted : Admitted (.name name)) : first.valueOf node name = second.valueOf other name := by
  simp only [valueOf, simulates.role pair, simulates.type pair, simulates.property pair admitted]

/-- A property reads the same at paired nodes, in each of the ways of reading it. -/
theorem read_eq {node : ν} {other : μ} (pair : Paired node other) {name : String}
    (admitted : Admitted (.name name)) (access : PropertyAccess) :
    first.read node name access = second.read other name access := by
  cases access with
  | raw => exact simulates.valueOf_eq pair admitted
  | cast target => simp only [read, simulates.valueOf_eq pair admitted]
  | isResolved => simp only [read, simulates.resolved pair admitted]

variable [RegexEngine]

/-- An expression that mentions only what is admitted has the same outcome at paired nodes, inside
any number of quantifiers and under any limit on them.

Induct over the expression, for every depth and every pair. Logical operators look at the outcome
of the first operand, which both runs share, before they evaluate the second. A quantifier runs
the same condition over nodes that are paired one by one, so it stops at the same pair. -/
theorem evaluateAt_eq (limit : Option Nat) (expr : Expr)
    (admitted : ∀ mention ∈ expr.mentions, Admitted mention) (depth : Nat) {node : ν} {other : μ}
    (pair : Paired node other) :
    expr.evaluateAt first limit depth node = expr.evaluateAt second limit depth other := by
  induction expr generalizing depth node other with
  | literal value => rfl
  | state fact =>
    simp only [Expr.evaluateAt, simulates.holds pair (admitted _ List.mem_cons_self)]
  | property key access =>
    simp only [Expr.evaluateAt, simulates.read_eq pair (admitted _ List.mem_cons_self)]
  | name identifier =>
    simp only [Expr.evaluateAt, simulates.valueOf_eq pair (admitted _ List.mem_cons_self)]
  | unary operator operand inductionHypothesis =>
    have same := inductionHypothesis admitted depth pair
    cases operator <;> simp only [Expr.evaluateAt, same]
  | binary operator left right leftHypothesis rightHypothesis =>
    rw [Expr.mentions_binary] at admitted
    obtain ⟨leftAdmitted, rightAdmitted⟩ := List.forall_mem_append.mp admitted
    have sameLeft := leftHypothesis leftAdmitted depth pair
    have sameRight := rightHypothesis rightAdmitted depth pair
    cases operator <;> simp only [Expr.evaluateAt, sameLeft, sameRight]
  | search subject pattern inductionHypothesis =>
    simp only [Expr.evaluateAt, inductionHypothesis admitted depth pair]
  | quantified relation quantifier body inductionHypothesis =>
    obtain ⟨relationAdmitted, bodyAdmitted⟩ := List.forall_mem_cons.mp admitted
    have related := simulates.related pair relationAdmitted
    have same (inside : Nat) :
        quantifier.decide (fun place => do
          return (← body.evaluateAt first limit inside place).isTrue)
            (first.related node relation) =
        quantifier.decide (fun place => do
          return (← body.evaluateAt second limit inside place).isTrue)
            (second.related other relation) := by
      refine quantifier.decide_eq (fun place otherPlace inner => ?_) related
      rw [inductionHypothesis bodyAdmitted inside inner]
    simp only [Expr.evaluateAt, same]
  | count relation =>
    have related := simulates.related pair (admitted _ List.mem_cons_self)
    simp only [Expr.evaluateAt, related.length_eq]

/-! ### Rules -/

/-- A rule that mentions only what is admitted comes to the same verdict, or the same fault, at
paired nodes. -/
theorem evaluate_eq (interpreter : Interpreter) {rule : Rule}
    (admitted : ∀ mention ∈ rule.mentions, Admitted mention) {node : ν} {other : μ}
    (pair : Paired node other) :
    interpreter.evaluate first rule node = interpreter.evaluate second rule other := by
  have sameEnsure : rule.ensure.evaluate first interpreter.depthLimit node =
      rule.ensure.evaluate second interpreter.depthLimit other :=
    simulates.evaluateAt_eq _ _ (fun _ member => admitted _ (Rule.mem_mentions_of_ensure member))
      0 pair
  have sameChoice : interpreter.selects first node = interpreter.selects second other := by
    funext selector
    cases selector <;>
      simp only [Interpreter.selects, simulates.role pair, simulates.type pair]
  have sameGuard : interpreter.admits first rule node = interpreter.admits second rule other := by
    unfold Interpreter.admits
    split
    · rfl
    · rename_i guard present
      have same : guard.evaluate first interpreter.depthLimit node =
          guard.evaluate second interpreter.depthLimit other :=
        simulates.evaluateAt_eq _ _
          (fun _ member => admitted _ (Rule.mem_mentions_of_guard present member)) 0 pair
      rw [same]
  unfold Interpreter.evaluate Interpreter.applies
  rw [sameChoice, sameGuard, sameEnsure]

/-! ### Audits -/

/-- Rules that mention only what is admitted find the same in rows of paired nodes. -/
theorem audit_eq {ruleSet : RuleSet}
    (admitted : ∀ rule ∈ ruleSet.rules, ∀ mention ∈ rule.mentions, Admitted mention)
    {nodes : List ν} {others : List μ} (paired : List.Forall₂ Paired nodes others) :
    ruleSet.audit first nodes = ruleSet.audit second others := by
  have sameAsk {node : ν} {other : μ} (pair : Paired node other) (index : Nat)
      (report : AuditReport) (rule : Rule) (member : rule ∈ ruleSet.rules) :
      ruleSet.ask first node index report rule = ruleSet.ask second other index report rule := by
    simp only [RuleSet.ask, simulates.evaluate_eq _ (admitted rule member) pair,
      simulates.role pair, simulates.type pair]
  have sameStep {node : ν} {other : μ} (pair : Paired node other) (index : Nat)
      (report : AuditReport) : ruleSet.checkNode first report (node, index) =
        ruleSet.checkNode second report (other, index) :=
    List.foldl_ext _ _ _ fun sofar rule member => sameAsk pair index sofar rule member
  have sameFrom (start : Nat) (report : AuditReport) :
      (nodes.zipIdx start).foldl (ruleSet.checkNode first) report =
        (others.zipIdx start).foldl (ruleSet.checkNode second) report := by
    induction paired generalizing start report with
    | nil => rfl
    | cons pair _ inductionHypothesis =>
      rw [List.zipIdx_cons, List.zipIdx_cons, List.foldl_cons, List.foldl_cons, sameStep pair,
        inductionHypothesis]
  exact sameFrom 0 .empty

end Host.Simulates

end WidgetAudit
