import WidgetAudit.Pattern.GapEngine
import WidgetAudit.Proofs.Evaluation.Simulation

/-!
# What a rule sees below a node

A rule that asks only for children sees of a node nothing but the widgets inside it. So it does not
matter whether these are part of a larger tree or a tree of their own, although all their places
differ: at two nodes at which the same nested widget stands, be it in one tree or in two, the rule
comes to the same, and the two sweeps report the same.

The pairing of nodes is just that the same nested widget stands at both. It is handed down from a
node to its children, since what stands at these is determined by the nested widget alone.
-/

namespace WidgetAudit

/-- Of the relations only the way to the children is downward; states and names are those of the
node itself. -/
def Mention.isDownward : Mention → Bool
  | .relation asked => asked == .children
  | .state _ | .name _ => true

namespace WidgetTree

/-- The same nested widget stands at a node of one tree and at a node of another. -/
def StandAlike (first second : WidgetTree) (node other : Nat) : Prop :=
  ∃ nested, first.StandsAt node nested ∧ second.StandsAt other nested

/-- Where the same nested widgets stand in two rows, they stand alike one by one. -/
theorem standAlike_of_all {first second : WidgetTree} {nodes others : List Nat}
    {forest : List NestedWidget} (stand : List.Forall₂ first.StandsAt nodes forest)
    (otherStand : List.Forall₂ second.StandsAt others forest) :
    List.Forall₂ (StandAlike first second) nodes others := by
  induction stand generalizing others with
  | nil =>
    cases otherStand
    exact .nil
  | cons stands _ inductionHypothesis =>
    cases otherStand with
    | cons otherStands behind =>
      exact .cons ⟨_, stands, otherStands⟩ (inductionHypothesis behind)

namespace StandAlike

variable {first second : WidgetTree} {node other : Nat}

/-- Nodes that stand alike hold the same widget. -/
theorem widget_eq (alike : StandAlike first second node other) :
    first.widget node = second.widget other := by
  obtain ⟨nested, stands, otherStands⟩ := alike
  rw [stands.widget_eq, otherStands.widget_eq]

/-- Children of nodes that stand alike stand alike, one by one. -/
theorem children (alike : StandAlike first second node other) :
    List.Forall₂ (StandAlike first second) (first.children node) (second.children other) := by
  obtain ⟨⟨widget, inside⟩, stands, otherStands⟩ := alike
  exact standAlike_of_all stands.children_stand otherStands.children_stand

/-- Of nodes that stand alike both have children or neither has. -/
theorem isEmpty_eq (alike : StandAlike first second node other) :
    first.host.isEmpty node = second.host.isEmpty other := by
  have sameLength := alike.children.length_eq
  change (first.children node).isEmpty = (second.children other).isEmpty
  rw [Bool.eq_iff_iff, List.isEmpty_iff_length_eq_zero, List.isEmpty_iff_length_eq_zero,
    sameLength]

/-- Nodes that stand alike simulate one another for all that is downward. -/
theorem simulates (first second : WidgetTree) :
    first.host.Simulates second.host (fun mention => mention.isDownward = true)
      (StandAlike first second) where
  role alike := congrArg Widget.role alike.widget_eq
  type alike := congrArg Widget.type alike.widget_eq
  holds alike fact _ := by
    cases fact with
    | isEmpty => exact alike.isEmpty_eq
    | isNotEmpty => exact congrArg not alike.isEmpty_eq
    | _ => simp only [Host.holds, host, plainHost, alike.widget_eq]
  property alike name _ := congrArg (Widget.property? · name) alike.widget_eq
  resolved alike name _ := congrArg (Widget.isResolved · name) alike.widget_eq
  related alike relation downward := by
    cases relation with
    | children => exact alike.children
    | _ => cases downward

/-- The sweeps from nodes that stand alike visit nodes that stand alike, one by one. Each of them
ends with the nested widget, long before its tree's limit if the tree is larger. -/
theorem preOrder (alike : StandAlike first second node other) :
    List.Forall₂ (StandAlike first second) (first.host.preOrder node)
      (second.host.preOrder other) := by
  obtain ⟨nested, stands, otherStands⟩ := alike
  rw [← first.sweep_eq_preOrder stands (Nat.le_refl _),
    ← second.sweep_eq_preOrder otherStands (Nat.le_refl _)]
  exact (simulates first second).sweep rfl nested.size (.cons ⟨nested, stands, otherStands⟩ .nil)

end StandAlike

section AnyEngine

variable [RegexEngine]

/-- Downward rules are local to the subtree. At every node of a tree the nested widget has a
subtree, and a rule that asks for no relation other than the children comes to the same at the
node as at the outermost node of the subtree's own tree, whatever the kinds and the limit on
quantifiers are; and rules of this sort report the same of everything inside the one as of
everything inside the other.

Proof: the subtree stands at both nodes. -/
theorem downward_rules_are_local (nested : NestedWidget) (node : Nat)
    (inTree : node < (ofNested nested).size) :
    ∃ subtree, nested.subtrees[node]? = some subtree ∧
      (∀ rule : Rule, (∀ mention ∈ rule.mentions, mention.isDownward = true) →
        ∀ interpreter : Interpreter,
          interpreter.evaluate (ofNested nested).host rule node =
            interpreter.evaluate (ofNested subtree).host rule 0) ∧
      ∀ ruleSet : RuleSet,
        (∀ rule ∈ ruleSet.rules, ∀ mention ∈ rule.mentions, mention.isDownward = true) →
        ruleSet.auditTree (ofNested nested).host node =
          ruleSet.auditTree (ofNested subtree).host 0 := by
  have counted : node < nested.subtrees.length := by
    have sameSize : (ofNested nested).size = nested.size :=
      size_of_laidOut nested.toList_layOut_empty
    rw [NestedWidget.length_subtrees, ← sameSize]
    exact inTree
  have listed := List.getElem?_eq_getElem counted
  have alike : StandAlike (ofNested nested) (ofNested nested.subtrees[node]) node 0 :=
    ⟨_, standsAt_ofNested listed, standsAt_ofNested (NestedWidget.subtrees_zero _)⟩
  have simulates := StandAlike.simulates (ofNested nested) (ofNested nested.subtrees[node])
  refine ⟨_, listed, ?_, ?_⟩
  · intro rule downward interpreter
    exact simulates.evaluate_eq interpreter downward alike
  · intro ruleSet downward
    exact simulates.audit_eq downward alike.preOrder

/-- A list of two buttons. -/
def buttonList : NestedWidget :=
  .node { role := "list", type := "ListView" }
    [.node { role := "button", type := "Button" } [],
     .node { role := "button", type := "Button", hidden := true } []]

/-- The list on a page, below a title. -/
def titledList : NestedWidget :=
  .node { role := "page", type := "Page" } [.node { role := "text", type := "Text" } [], buttonList]

/-- A list with more than one child has only visible ones, without children of their own. -/
def visibleItems : Rule where
  name := "items"
  selectors := [.type "ListView"]
  details := .empty
  guard := some (.binary .greater (.count .children) (.literal (.int 1)))
  ensure := .quantified .children .none
    (.binary .or (.state .hidden) (.quantified .children .any (.literal (.bool true))))
  report := "x"

end AnyEngine

/-- The rule about the list comes to the same on the page, where the list is node 2, as in a tree of
its own. -/
theorem downward_rules_are_local_titledList :
    2 < (ofNested titledList).size ∧
      (∀ mention ∈ visibleItems.mentions, mention.isDownward = true) ∧
      ∃ subtree, titledList.subtrees[2]? = some subtree ∧
        (∀ interpreter : Interpreter,
          interpreter.evaluate (ofNested titledList).host visibleItems 2 =
            interpreter.evaluate (ofNested subtree).host visibleItems 0) ∧
        RuleSet.auditTree ⟨[visibleItems], {}, []⟩ (ofNested titledList).host 2 =
          RuleSet.auditTree ⟨[visibleItems], {}, []⟩ (ofNested subtree).host 0 := by
  have inTree : 2 < (ofNested titledList).size := by decide
  have downward : ∀ mention ∈ visibleItems.mentions, mention.isDownward = true := by decide
  obtain ⟨subtree, listed, sameVerdicts, sameReports⟩ :=
    downward_rules_are_local titledList 2 inTree
  refine ⟨inTree, downward, subtree, listed, sameVerdicts visibleItems downward, ?_⟩
  exact sameReports ⟨[visibleItems], {}, []⟩ (List.forall_mem_singleton.mpr downward)

-- A rule that looks beside the list can tell the two trees apart.
example :
    (Expr.count .siblings).evaluate (ofNested titledList).host none 2 = .ok (.int 1) ∧
      (Expr.count .siblings).evaluate (ofNested buttonList).host none 0 = .ok (.int 0) := by
  decide

end WidgetTree

end WidgetAudit
