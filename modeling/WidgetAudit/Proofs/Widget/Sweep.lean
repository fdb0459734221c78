import WidgetAudit.Audit
import WidgetAudit.Pattern.GapEngine
import WidgetAudit.Proofs.Widget.Layout

/-!
# The sweep of a tree

The sweep keeps a stack of nodes that it has met but not visited. A tree also lists its
nodes in one row. Both orders agree: the sweep from a node visits exactly the stretch of
the row that the node's subtree takes, from left to right and each node once.

The invariant relates the stack, read from its end, to the nested widgets that still stand
unvisited: what is left to visit is the concatenation of their stretches. A step takes the
outermost widget off the first of them and puts the widgets inside it in front of the
others, which only cuts the same stretch into smaller ones.
-/

namespace WidgetAudit

open NestedWidget

namespace Host

variable {ν : Type}

/-- The stack that holds nodes in such an order that the first one is taken next. -/
def stackOf (nodes : List ν) : Array ν := nodes.reverse.toArray

/-- Nothing is visited when nothing is on the stack. -/
theorem sweep_empty (host : Host ν) (limit : Nat) : host.sweep limit (stackOf []) = [] := by
  cases limit <;> simp [sweep, stackOf]

/-- One step visits the first node, and its children come next in their own order. Turning
them round before they are pushed is what keeps that order. -/
theorem sweep_cons (host : Host ν) (limit : Nat) (node : ν) (others : List ν) :
    host.sweep (limit + 1) (stackOf (node :: others)) =
      node :: host.sweep limit (stackOf (host.children node ++ others)) := by
  have last : (stackOf (node :: others)).back? = some node := by simp [stackOf]
  have rest : (stackOf (node :: others)).pop ++ (host.children node).reverse =
      stackOf (host.children node ++ others) := by
    simp [stackOf]
  simp only [sweep, last, rest]

end Host

namespace WidgetTree

/-- The stretches of the row that nested widgets take, given the nodes they stand at. -/
def stretches (nodes : List Nat) (forest : List NestedWidget) : List Nat :=
  (nodes.zip forest).flatMap fun standing => List.range' standing.1 standing.2.size

/-- The stretches of two rows of nested widgets follow one another. -/
theorem stretches_append {nodes others : List Nat} {forest rest : List NestedWidget}
    (length : nodes.length = forest.length) :
    stretches (nodes ++ others) (forest ++ rest) =
      stretches nodes forest ++ stretches others rest := by
  simp only [stretches, List.zip_append length, List.flatMap_append]

/-- Nested widgets that stand one after the other take one stretch together. -/
theorem stretches_places (place : Nat) (forest : List NestedWidget) :
    stretches (places place forest) forest = List.range' place (totalSize forest) := by
  induction forest generalizing place with
  | nil => rfl
  | cons first others inductionHypothesis =>
    have later := inductionHypothesis (place + first.size)
    simp only [stretches] at later
    simp only [stretches, places, totalSize, List.zip_cons_cons, List.flatMap_cons, later]
    exact List.range'_append_1

/-- The total size of two rows of nested widgets is the sum of theirs. -/
theorem totalSize_append (forest rest : List NestedWidget) :
    totalSize (forest ++ rest) = totalSize forest + totalSize rest := by
  induction forest with
  | nil => simp [totalSize]
  | cons first others inductionHypothesis =>
    simp only [List.cons_append, totalSize, inductionHypothesis, Nat.add_assoc]

/-- The sweep visits the stretches of the nested widgets that stand at the nodes on its
stack, if its limit admits as many steps as there are widgets in them.

Induct over the limit. A step on a nested widget leaves the widgets inside it, which stand
at the node's children; their stretches are the rest of the stretch that is being visited. -/
theorem sweep_eq_stretches (tree : WidgetTree) (limit : Nat) (nodes : List Nat)
    (forest : List NestedWidget) (stand : List.Forall₂ tree.StandsAt nodes forest)
    (enough : totalSize forest ≤ limit) :
    tree.host.sweep limit (Host.stackOf nodes) = stretches nodes forest := by
  induction limit generalizing nodes forest with
  | zero =>
    cases stand with
    | nil => rfl
    | @cons node nested nodes forest first others =>
      have positive := size_positive nested
      simp only [totalSize] at enough
      omega
  | succ limit inductionHypothesis =>
    cases stand with
    | nil => exact Host.sweep_empty _ _
    | @cons node nested nodes forest first others =>
      obtain ⟨widget, children⟩ := nested
      have inside : List.Forall₂ tree.StandsAt (tree.children node) children :=
        first.children_stand
      have next : List.Forall₂ tree.StandsAt (tree.children node ++ nodes) (children ++ forest) :=
        List.rel_append inside others
      have nextEnough : totalSize (children ++ forest) ≤ limit := by
        rw [totalSize_append]
        simp only [totalSize, NestedWidget.size] at enough
        omega
      have visited := inductionHypothesis _ _ next nextEnough
      have step : tree.host.sweep (limit + 1) (Host.stackOf (node :: nodes)) =
          node :: tree.host.sweep limit (Host.stackOf (tree.children node ++ nodes)) :=
        Host.sweep_cons tree.host limit node nodes
      rw [step, visited, stretches_append inside.length_eq, first.children_eq, stretches_places]
      simp only [stretches, List.zip_cons_cons, List.flatMap_cons, NestedWidget.size,
        List.range'_succ, List.cons_append]

/-- The sweep from a node visits the stretch of its subtree, whatever the limit is, as long
as it admits one step for each widget in it. So it is the stack that ends the sweep. -/
theorem sweep_eq_range (tree : WidgetTree) {node limit : Nat} {subtree : NestedWidget}
    (stands : tree.StandsAt node subtree) (enough : subtree.size ≤ limit) :
    tree.host.sweep limit #[node] = List.range' node subtree.size := by
  have visited := tree.sweep_eq_stretches limit [node] [subtree] (.cons stands .nil)
    (by simpa only [totalSize, Nat.add_zero] using enough)
  simpa [stretches, Host.stackOf] using visited

/-- A limit that admits one step for each widget in the subtree of a node gives the whole sweep from
the node. -/
theorem sweep_eq_preOrder (tree : WidgetTree) {node limit : Nat} {subtree : NestedWidget}
    (stands : tree.StandsAt node subtree) (enough : subtree.size ≤ limit) :
    tree.host.sweep limit #[node] = tree.host.preOrder node := by
  have fits : subtree.size ≤ tree.host.size := Nat.le_trans (Nat.le_add_left _ _) stands.fits
  rw [Host.preOrder, tree.sweep_eq_range stands enough, tree.sweep_eq_range stands fits]

/-- Every node of a tree, in the order of its row. -/
theorem nodes_eq_range (tree : WidgetTree) : tree.nodes = List.range' 0 tree.size :=
  List.range_eq_range'

section AnyEngine

variable [RegexEngine]

/-- A tree keeps its nodes in the order in which the sweep visits them. Every node has a
subtree, and if that has `n` widgets, the sweep from the node visits it and the `n - 1` nodes
behind it in the row, each once, however many further steps it may take. An audit of what
lies below a node is therefore the audit of that stretch, and from the outermost node it is
the audit of all nodes.

Proof: the subtree that the pre-order lists for the node stands at the node, so its stretch
is what the sweep visits. It fits into the tree, whose size is the limit of the sweep. -/
theorem sweep_visits_each_once (tree : WidgetTree) (nested : NestedWidget)
    (laidOut : tree.slots.toList = nested.slotsOf none 0) (node : Nat)
    (inTree : node < tree.size) (ruleSet : RuleSet) :
    ∃ subtree, nested.subtrees[node]? = some subtree ∧
      (∀ limit, subtree.size ≤ limit →
        tree.host.sweep limit #[node] = List.range' node subtree.size) ∧
      tree.host.preOrder node = List.range' node subtree.size ∧
      ruleSet.auditTree tree.host node =
        ruleSet.audit tree.host (List.range' node subtree.size) ∧
      ruleSet.auditTree tree.host 0 = ruleSet.audit tree.host tree.nodes := by
  have visits {node : Nat} {subtree : NestedWidget}
      (listed : nested.subtrees[node]? = some subtree) :
      tree.host.preOrder node = List.range' node subtree.size := by
    have stands := standsAt_of_subtrees laidOut listed
    exact tree.sweep_eq_range stands (Nat.le_trans (Nat.le_add_left _ _) stands.fits)
  have counted : node < nested.subtrees.length := by
    rw [length_subtrees, ← size_of_laidOut laidOut]
    exact inTree
  have listed := List.getElem?_eq_getElem counted
  have below := visits listed
  have outermost : nested.subtrees[0]? = some nested := by cases nested; rfl
  have all : tree.host.preOrder 0 = tree.nodes := by
    rw [visits outermost, nodes_eq_range, size_of_laidOut laidOut]
  refine ⟨nested.subtrees[node], listed, ?_, below, ?_, ?_⟩
  · intro limit enough
    exact tree.sweep_eq_range (standsAt_of_subtrees laidOut listed) enough
  · rw [RuleSet.auditTree, below]
  · rw [RuleSet.auditTree, all]

/-- A root with two children, the first of which has a child of its own. -/
def forked : NestedWidget := .node default [.node default [.node default []], .node default []]

/-- A set of one rule, which every widget of `forked` breaks. -/
def pressable : RuleSet := ⟨[⟨"tap", [.any], .empty, none, .state .hasTap, "no tap"⟩], {}, []⟩

end AnyEngine

/-- Below the first child of `forked` the sweep visits that child and its child. -/
theorem sweep_visits_below_first_child :
    (ofNested forked).slots.toList = forked.slotsOf none 0 ∧ 1 < (ofNested forked).size ∧
      ∃ subtree, forked.subtrees[1]? = some subtree ∧
        (∀ limit, subtree.size ≤ limit →
          (ofNested forked).host.sweep limit #[1] = List.range' 1 subtree.size) ∧
        (ofNested forked).host.preOrder 1 = List.range' 1 subtree.size ∧
        pressable.auditTree (ofNested forked).host 1 =
          pressable.audit (ofNested forked).host (List.range' 1 subtree.size) ∧
        pressable.auditTree (ofNested forked).host 0 =
          pressable.audit (ofNested forked).host (ofNested forked).nodes :=
  ⟨rfl, by decide, sweep_visits_each_once (ofNested forked) forked rfl 1 (by decide) pressable⟩

end WidgetTree

end WidgetAudit
