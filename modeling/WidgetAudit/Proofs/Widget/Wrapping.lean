import WidgetAudit.Pattern.GapEngine
import WidgetAudit.Proofs.Evaluation.Simulation

/-!
# Trees behind plain hosts

A host that stands in front of a tree may answer only what every host has to answer: it passes
each such question on and wraps the nodes that it gets back. To the other questions it gives the
common answers, which are not those of the tree. As long as a rule does not ask them, it cannot
tell the wrapped nodes from the nodes of the tree, however deep its quantifiers nest; and the
sweep, which only goes to the children, visits the same nodes.
-/

namespace WidgetAudit

/-- The mentions that a host may leave to a common answer which a tree does not give. -/
def Mention.optional : List Mention :=
  [.state .checked, .state .toggled, .relation .nextFocus, .relation .previousFocus]

namespace WidgetTree

variable {μ : Type}

/-- A host stands in front of a tree. Of a wrapped node it says what the tree says of the node, in
answer to every question that has no common answer; what is related to the node it hands out
wrapped. Where there is a common answer, it gives that. -/
structure IsWrapped (tree : WidgetTree) (wrap : Nat → μ) (host : Host μ) : Prop where
  role : ∀ node, host.role (wrap node) = tree.host.role node
  type : ∀ node, host.type (wrap node) = tree.host.type node
  isFocusable : ∀ node, host.isFocusable (wrap node) = tree.host.isFocusable node
  isEnabled : ∀ node, host.isEnabled (wrap node) = tree.host.isEnabled node
  isHidden : ∀ node, host.isHidden (wrap node) = tree.host.isHidden node
  mergesDescendants : ∀ node,
    host.mergesDescendants (wrap node) = tree.host.mergesDescendants node
  hasTap : ∀ node, host.hasTap (wrap node) = tree.host.hasTap node
  hasLongPress : ∀ node, host.hasLongPress (wrap node) = tree.host.hasLongPress node
  children : ∀ node, host.children (wrap node) = (tree.host.children node).map wrap
  ancestors : ∀ node, host.ancestors (wrap node) = (tree.host.ancestors node).map wrap
  siblings : ∀ node, host.siblings (wrap node) = (tree.host.siblings node).map wrap
  property : ∀ node name, host.property? (wrap node) name = tree.host.property? node name
  resolved : ∀ node name, host.isResolved (wrap node) name = tree.host.isResolved node name
  isChecked : ∀ node, host.isChecked (wrap node) = false
  isToggled : ∀ node, host.isToggled (wrap node) = false
  nextFocus : ∀ node, host.nextFocus (wrap node) = []
  previousFocus : ∀ node, host.previousFocus (wrap node) = []
  isEmpty : ∀ node, host.isEmpty (wrap node) = (host.children (wrap node)).isEmpty
  /-- The sweep may take as many steps as the tree has nodes. -/
  size : tree.size ≤ host.size

/-- The plain host of a tree stands in front of it, with the nodes as their own wrappers. -/
theorem isWrapped_plainHost (tree : WidgetTree) : tree.IsWrapped id tree.plainHost where
  role _ := rfl
  type _ := rfl
  isFocusable _ := rfl
  isEnabled _ := rfl
  isHidden _ := rfl
  mergesDescendants _ := rfl
  hasTap _ := rfl
  hasLongPress _ := rfl
  children _ := (List.map_id _).symm
  ancestors _ := (List.map_id _).symm
  siblings _ := (List.map_id _).symm
  property _ _ := rfl
  resolved _ _ := rfl
  isChecked _ := rfl
  isToggled _ := rfl
  nextFocus _ := rfl
  previousFocus _ := rfl
  isEmpty _ := rfl
  size := Nat.le_refl _

namespace IsWrapped

variable {tree : WidgetTree} {wrap : Nat → μ} {host : Host μ} (wrapped : tree.IsWrapped wrap host)

/-- Nodes are paired with their wrapped selves, one by one. -/
theorem paired_map (wrap : Nat → μ) (nodes : List Nat) :
    List.Forall₂ (fun node place => place = wrap node) nodes (nodes.map wrap) :=
  List.forall₂_map_right_iff.mpr (List.forall₂_same.mpr fun _ _ => rfl)

include wrapped

/-- A wrapped node is empty exactly if the node is, although the host does not ask the tree. -/
theorem isEmpty_eq (node : Nat) : host.isEmpty (wrap node) = tree.host.isEmpty node := by
  rw [wrapped.isEmpty, wrapped.children, List.isEmpty_map]
  rfl

/-- The nodes of a tree and their wrapped selves simulate one another, for all but the optional
mentions. -/
theorem simulates : tree.host.Simulates host (· ∉ Mention.optional)
    fun node place => place = wrap node where
  role := by
    rintro node _ rfl
    exact (wrapped.role node).symm
  type := by
    rintro node _ rfl
    exact (wrapped.type node).symm
  holds := by
    rintro node _ rfl fact required
    cases fact with
    | focusable => exact (wrapped.isFocusable node).symm
    | enabled => exact (wrapped.isEnabled node).symm
    | hidden => exact (wrapped.isHidden node).symm
    | checked => exact absurd (by decide) required
    | toggled => exact absurd (by decide) required
    | mergesDescendants => exact (wrapped.mergesDescendants node).symm
    | hasTap => exact (wrapped.hasTap node).symm
    | hasLongPress => exact (wrapped.hasLongPress node).symm
    | isEmpty => exact (wrapped.isEmpty_eq node).symm
    | isNotEmpty => exact congrArg not (wrapped.isEmpty_eq node).symm
  property := by
    rintro node _ rfl name _
    exact (wrapped.property node name).symm
  resolved := by
    rintro node _ rfl name _
    exact (wrapped.resolved node name).symm
  related := by
    rintro node _ rfl relation required
    cases relation with
    | children =>
      rw [Host.related, Host.related, wrapped.children]
      exact paired_map wrap _
    | ancestors =>
      rw [Host.related, Host.related, wrapped.ancestors]
      exact paired_map wrap _
    | siblings =>
      rw [Host.related, Host.related, wrapped.siblings]
      exact paired_map wrap _
    | nextFocus => exact absurd (by decide) required
    | previousFocus => exact absurd (by decide) required

/-- From a wrapped node the host sweeps over the wrapped nodes of the tree's own sweep. The host
may admit more steps than the tree; they are not taken. -/
theorem preOrder {node : Nat} {subtree : NestedWidget} (stands : tree.StandsAt node subtree) :
    List.Forall₂ (fun node place => place = wrap node) (tree.host.preOrder node)
      (host.preOrder (wrap node)) := by
  have fits : subtree.size ≤ host.size :=
    Nat.le_trans (Nat.le_trans (Nat.le_add_left _ _) stands.fits) wrapped.size
  have paired := paired_map wrap [node]
  have visited := wrapped.simulates.sweep (by decide) host.size paired
  rw [← tree.sweep_eq_preOrder stands fits]
  exact visited

end IsWrapped

section AnyEngine

variable [RegexEngine]

/-- Whoever puts a tree behind a host need not answer more than every host has to. A rule that
mentions nothing optional comes to the same at a wrapped node as at the node, whatever the kinds
and the limit on quantifiers are, and rules of this sort report the same of any row of nodes and
of everything inside the outermost one. The tree's own plain host is such a host.

Proof: wrapped nodes simulate the nodes, and the children of a node, which a sweep goes to, are
not optional. -/
theorem plain_answers_suffice (tree : WidgetTree) :
    tree.IsWrapped id tree.plainHost ∧
    ∀ {μ : Type} (wrap : Nat → μ) (host : Host μ), tree.IsWrapped wrap host →
      (∀ rule : Rule, (∀ mention ∈ rule.mentions, mention ∉ Mention.optional) →
        ∀ (interpreter : Interpreter) (node : Nat),
          interpreter.evaluate host rule (wrap node) =
            interpreter.evaluate tree.host rule node) ∧
      ∀ ruleSet : RuleSet,
        (∀ rule ∈ ruleSet.rules, ∀ mention ∈ rule.mentions, mention ∉ Mention.optional) →
        (∀ nodes, ruleSet.audit host (nodes.map wrap) = ruleSet.audit tree.host nodes) ∧
        ruleSet.auditTree host (wrap 0) = ruleSet.auditTree tree.host 0 := by
  refine ⟨tree.isWrapped_plainHost, ?_⟩
  intro μ wrap host wrapped
  constructor
  · intro rule required interpreter node
    exact (wrapped.simulates.evaluate_eq interpreter required rfl).symm
  · intro ruleSet required
    refine ⟨fun nodes => ?_, ?_⟩
    · exact (wrapped.simulates.audit_eq required (IsWrapped.paired_map wrap nodes)).symm
    · obtain ⟨nested, laidOut⟩ := tree.laidOut
      have stands := standsAt_of_subtrees laidOut nested.subtrees_zero
      exact (wrapped.simulates.audit_eq required (wrapped.preOrder stands)).symm

/-- A list with a checked button, which has a label, and a plain one. -/
def checkedList : WidgetTree :=
  .ofNested <| .node { role := "list", type := "ListView" }
    [.node (Widget.set { role := "button", type := "Button", focusable := true, checked := true }
      "label" (.string "OK")) [],
     .node { role := "button", type := "Button", focusable := true } []]

/-- No node around one without children stands beside a node that has children or a label. -/
def lonelyLabels : Rule where
  name := "lonely"
  selectors := [.kind "action", .type "ListView"]
  details := .empty
  guard := some (.state .isEmpty)
  ensure := .quantified .ancestors .none (.quantified .siblings .any
    (.binary .or (.state .isNotEmpty) (.property "label" .isResolved)))
  report := "x"

end AnyEngine

/-- The plain host of the list does not say that the first button is checked, which makes no
difference to the rule. -/
theorem plain_answers_suffice_checkedList :
    checkedList.IsWrapped id checkedList.plainHost ∧
      (∀ mention ∈ lonelyLabels.mentions, mention ∉ Mention.optional) ∧
      (∀ (interpreter : Interpreter) (node : Nat),
        interpreter.evaluate checkedList.plainHost lonelyLabels node =
          interpreter.evaluate checkedList.host lonelyLabels node) ∧
      RuleSet.auditTree ⟨[lonelyLabels], {}, []⟩ checkedList.plainHost 0 =
        RuleSet.auditTree ⟨[lonelyLabels], {}, []⟩ checkedList.host 0 := by
  have required : ∀ mention ∈ lonelyLabels.mentions, mention ∉ Mention.optional := by decide
  obtain ⟨wrapped, suffice⟩ := plain_answers_suffice checkedList
  obtain ⟨sameVerdicts, sameReports⟩ := suffice id checkedList.plainHost wrapped
  refine ⟨wrapped, required, sameVerdicts lonelyLabels required, ?_⟩
  exact (sameReports ⟨[lonelyLabels], {}, []⟩ (List.forall_mem_singleton.mpr required)).2

-- A rule that asks for the state itself can tell the two hosts apart.
example :
    (Expr.state .checked).evaluate checkedList.plainHost none 1 = .ok (.bool false) ∧
      (Expr.state .checked).evaluate checkedList.host none 1 = .ok (.bool true) :=
  ⟨rfl, rfl⟩

end WidgetTree

end WidgetAudit
