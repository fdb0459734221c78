import Mathlib.Data.List.Nodup
import WidgetAudit.Proofs.Widget.Flattening

/-!
# How the relations of a tree agree

The nodes around a node are found by going up from parent to parent, its children are read from its
slot, and its siblings are the children of its parent without itself. These are three computations
on the slots of the row, and nothing in a slot makes them agree; it is the layout that does. The
parents and the children name each other, a parent stands before its children, and what is reached
along the children is one stretch of the row. The relations are compared through these three facts
alone.

The way up ends because a parent stands before its children. So what holds of a node without a
parent, and of every node whose parent it holds of, holds of every node; the laws of the ancestors
are proved along that way.
-/

namespace WidgetAudit.WidgetTree

/-! ### Going from node to node -/

/-- Whoever goes from a node to the one that a step leads to, and from there on in the same way
until no step leads any further, meets these nodes, one after the other. -/
inductive Follows (step : Nat → List Nat) : Nat → List Nat → Prop
  | ended {node : Nat} (last : step node = []) : Follows step node []
  | led {node next : Nat} {others : List Nat} (leads : step node = [next])
      (onwards : Follows step next others) : Follows step node (next :: others)

namespace Follows

variable {step : Nat → List Nat} {node : Nat} {visited : List Nat}

/-- There is only one way to go. -/
theorem unique (follows : Follows step node visited) {others : List Nat}
    (alsoFollows : Follows step node others) : visited = others := by
  induction follows generalizing others with
  | ended last =>
    cases alsoFollows with
    | ended => rfl
    | led leads => simp [last] at leads
  | @led node next _ leads _ inductionHypothesis =>
    cases alsoFollows with
    | ended last => simp [last] at leads
    | @led _ otherNext _ alsoLeads onwards =>
      obtain rfl : next = otherNext := List.singleton_inj.1 (leads.symm.trans alsoLeads)
      rw [inductionHypothesis onwards]

/-- So what is met on one way is met on every way. -/
theorem iff_eq (follows : Follows step node visited) {others : List Nat} :
    Follows step node others ↔ others = visited := by
  constructor
  · intro alsoFollows
    exact alsoFollows.unique follows
  · rintro rfl
    exact follows

end Follows

variable {tree : WidgetTree}

/-! ### The way up -/

/-- A parent stands before its children. -/
theorem parent_before {node around : Nat} (named : tree.parent? node = some around) :
    around < node :=
  (bounds_of_mem_children (mem_children_iff.2 named)).1

/-- What holds of nodes without a parent, and of a node if it holds of its parent, holds of every
node. -/
theorem upward_induction (tree : WidgetTree) {motive : Nat → Prop}
    (outermost : ∀ node, tree.parent? node = none → motive node)
    (inner : ∀ node around, tree.parent? node = some around → motive around → motive node)
    (node : Nat) : motive node := by
  induction node using Nat.strongRecOn with
  | _ node inductionHypothesis =>
    cases named : tree.parent? node with
    | none => exact outermost node named
    | some around =>
      exact inner node around named (inductionHypothesis around (parent_before named))

/-- Around a node without a parent there is nothing. -/
theorem ancestors_of_outermost {node : Nat} (alone : tree.parent? node = none) :
    tree.ancestors node = [] := by
  rw [ancestors, alone]

/-- Around any other node there is its parent and what is around that. -/
theorem ancestors_of_parent {node around : Nat} (named : tree.parent? node = some around) :
    tree.ancestors node = around :: tree.ancestors around := by
  rw [ancestors, named]
  exact if_pos (parent_before named)

/-- The ancestors of a node are met on the way from parent to parent, all of them. -/
theorem follows_ancestors (tree : WidgetTree) (node : Nat) :
    Follows (fun inner => (tree.parent? inner).toList) node (tree.ancestors node) := by
  induction node using upward_induction tree with
  | outermost node alone =>
    rw [ancestors_of_outermost alone]
    exact .ended (by rw [alone, Option.toList_none])
  | inner node around named onwards =>
    rw [ancestors_of_parent named]
    exact .led (by rw [named, Option.toList_some]) onwards

/-- On the way up the nodes descend in the row. -/
theorem pairwise_ancestors (tree : WidgetTree) (node : Nat) :
    (node :: tree.ancestors node).Pairwise (· > ·) := by
  rw [← List.isChain_iff_pairwise]
  induction node using upward_induction tree with
  | outermost node alone =>
    rw [ancestors_of_outermost alone]
    exact .singleton node
  | inner node around named descending =>
    rw [ancestors_of_parent named]
    exact .cons_cons (parent_before named) descending

/-- The first of the ancestors is the parent. -/
theorem head?_ancestors (tree : WidgetTree) (node : Nat) :
    (tree.ancestors node).head? = tree.parent? node := by
  cases named : tree.parent? node with
  | none => rw [ancestors_of_outermost named, List.head?_nil]
  | some around => rw [ancestors_of_parent named, List.head?_cons]

/-- Only the outermost node of a tree has no parent. -/
theorem parent?_eq_none_iff {node : Nat} (inTree : node < tree.size) :
    tree.parent? node = none ↔ node = 0 := by
  refine ⟨fun alone => ?_, fun first => first ▸ parent?_zero tree⟩
  by_contra inner
  obtain ⟨around, listed⟩ := exists_parent inTree inner
  rw [mem_children_iff, alone] at listed
  cases listed

/-- The way up from a node of a tree ends at the outermost node. -/
theorem getLast?_ancestors {node : Nat} (inTree : node < tree.size) :
    (node :: tree.ancestors node).getLast? = some 0 := by
  induction node using upward_induction tree with
  | outermost node alone =>
    rw [ancestors_of_outermost alone, (parent?_eq_none_iff inTree).1 alone, List.getLast?_singleton]
  | inner node around named ends =>
    rw [ancestors_of_parent named, List.getLast?_cons_cons]
    exact ends (Nat.lt_trans (parent_before named) inTree)

/-- A node is around the nodes that are reached from it along the children, in one step or more. -/
theorem mem_ancestors_iff {node other : Nat} :
    other ∈ tree.ancestors node ↔
      Relation.TransGen (fun around child => child ∈ tree.children around) other node := by
  induction node using upward_induction tree with
  | outermost node alone =>
    rw [ancestors_of_outermost alone]
    refine iff_of_false List.not_mem_nil fun reached => ?_
    obtain ⟨around, _, listed⟩ := Relation.TransGen.tail'_iff.1 reached
    rw [mem_children_iff, alone] at listed
    cases listed
  | inner node around named inductionHypothesis =>
    have listed : node ∈ tree.children around := mem_children_iff.2 named
    rw [ancestors_of_parent named, List.mem_cons, inductionHypothesis]
    -- The last of the steps to a node comes from its parent, since no other node lists it.
    constructor
    · rintro (rfl | reached)
      · exact .single listed
      · exact reached.tail listed
    · intro reached
      obtain ⟨last, reachesLast, alsoListed⟩ := Relation.TransGen.tail'_iff.1 reached
      obtain rfl : around = last :=
        Option.some.inj (named.symm.trans (mem_children_iff.1 alsoListed))
      exact (Relation.reflTransGen_iff_eq_or_transGen.1 reachesLast).imp_left Eq.symm

/-- A node is around the other nodes in its stretch of the row. -/
theorem mem_ancestors_iff_within {node other : Nat} (inTree : other < tree.size) :
    other ∈ tree.ancestors node ↔ other < node ∧ node < other + (tree.nestedAt other).size := by
  obtain ⟨subtree, stands⟩ := exists_standsAt inTree
  rw [stands.nestedAt_eq]
  constructor
  · intro around
    have reached : tree.Reaches other node := (mem_ancestors_iff.1 around).to_reflTransGen
    exact ⟨List.rel_of_pairwise_cons (pairwise_ancestors tree node) around,
      (stands.reaches_iff.1 reached).2⟩
  · rintro ⟨before, within⟩
    have reached : tree.Reaches other node := stands.reaches_iff.2 ⟨Nat.le_of_lt before, within⟩
    have inSteps := Relation.reflTransGen_iff_eq_or_transGen.1 reached
    exact mem_ancestors_iff.2 (inSteps.resolve_left (Nat.ne_of_gt before))

/-! ### Beside a node -/

/-- Beside a node without a parent there is nothing. -/
theorem siblings_of_outermost {node : Nat} (alone : tree.parent? node = none) :
    tree.siblings node = [] := by
  rw [siblings, alone]

/-- Beside any other node there are the children of its parent, without the node itself. -/
theorem siblings_of_parent {node around : Nat} (named : tree.parent? node = some around) :
    tree.siblings node = (tree.children around).filter (· != node) := by
  rw [siblings, named]

/-- The siblings of a node stand before and behind it among the children of its parent, where the
node itself stands once. -/
theorem children_eq_append_siblings {node around : Nat} (named : tree.parent? node = some around) :
    ∃ before after, tree.children around = before ++ node :: after ∧
      tree.siblings node = before ++ after := by
  obtain ⟨before, after, row⟩ := List.append_of_mem (mem_children_iff.2 named)
  refine ⟨before, after, row, ?_⟩
  have distinct : (tree.children around).Nodup := (pairwise_children tree around).nodup
  rw [row, List.nodup_middle, List.nodup_cons] at distinct
  -- The filter takes out whatever equals the node, which is only the node itself.
  have others : (before ++ after).filter (· != node) = before ++ after := by
    refine List.filter_eq_self.2 fun other listed => ?_
    rw [bne_iff_ne]
    rintro rfl
    exact distinct.1 listed
  rw [siblings_of_parent named, row, List.filter_append, List.filter_cons_of_neg (by simp),
    ← List.filter_append, others]

/-- Two nodes are beside each other if they are different nodes with the same parent. -/
theorem mem_siblings_iff {node other : Nat} :
    other ∈ tree.siblings node ↔
      other ≠ node ∧
        ∃ around, tree.parent? node = some around ∧ tree.parent? other = some around := by
  cases named : tree.parent? node with
  | none => simp [siblings_of_outermost named]
  | some around =>
    simp only [siblings_of_parent named, List.mem_filter, mem_children_iff, bne_iff_ne,
      Option.some.injEq, exists_eq_left', and_comm]

/-! ### All relations together -/

/-- The relations of a tree are coherent. -/
structure Coherent (tree : WidgetTree) : Prop where
  /-- The ancestors of a node are all that is met on the way from parent to parent, which ends. -/
  upward : ∀ node,
    Follows (fun inner => (tree.parent? inner).toList) node (tree.ancestors node)
  /-- On that way the nodes descend in the row. -/
  descending : ∀ node, (node :: tree.ancestors node).Pairwise (· > ·)
  /-- It starts at the parent. -/
  nearest : ∀ node, (tree.ancestors node).head? = tree.parent? node
  /-- It ends at the outermost node. -/
  farthest : ∀ node, node < tree.size → node ≠ 0 → (tree.ancestors node).getLast? = some 0
  /-- Only around the outermost node there is nothing. -/
  alone : ∀ node, node < tree.size → (tree.ancestors node = [] ↔ node = 0)
  /-- A node is around the nodes that are reached from it along the children. -/
  around_iff_reached : ∀ node other, other ∈ tree.ancestors node ↔
    Relation.TransGen (fun around child => child ∈ tree.children around) other node
  /-- These are the nodes behind it that belong to its subtree, which is one stretch of the row. -/
  around_iff_within : ∀ node other, other < tree.size →
    (other ∈ tree.ancestors node ↔ other < node ∧ node < other + (tree.nestedAt other).size)
  /-- Beside the outermost node there is nothing. -/
  no_siblings : tree.siblings 0 = []
  /-- The siblings of a node are the children of its parent, from which the node itself is taken
  out. -/
  siblings : ∀ node around, tree.parent? node = some around →
    ∃ before after, tree.children around = before ++ node :: after ∧
      tree.siblings node = before ++ after
  /-- So a parent has one child more than that child has siblings. -/
  length_children : ∀ node around, tree.parent? node = some around →
    (tree.children around).length = (tree.siblings node).length + 1
  /-- Siblings are beside each other. -/
  symmetric : ∀ node other, other ∈ tree.siblings node → node ∈ tree.siblings other
  /-- No node is beside itself. -/
  irreflexive : ∀ node, node ∉ tree.siblings node

/-- The relations of every tree are coherent, although its nodes are related by what their slots
say and the slots say it separately.

Proof: parents and children name each other, a parent stands before its children, and the nodes
that are reached from a node are a stretch of the row. -/
theorem relations_coherent (tree : WidgetTree) : tree.Coherent where
  upward := tree.follows_ancestors
  descending := tree.pairwise_ancestors
  nearest := tree.head?_ancestors
  farthest node inTree inner := by
    have ends := getLast?_ancestors inTree
    cases row : tree.ancestors node with
    | nil =>
      rw [row, List.getLast?_singleton] at ends
      exact absurd (Option.some.inj ends) inner
    | cons around others => rwa [row, List.getLast?_cons_cons] at ends
  alone node inTree := by
    rw [← parent?_eq_none_iff inTree, ← head?_ancestors, List.head?_eq_none_iff]
  around_iff_reached _ _ := mem_ancestors_iff
  around_iff_within _ _ := mem_ancestors_iff_within
  no_siblings := siblings_of_outermost tree.parent?_zero
  siblings _ _ := children_eq_append_siblings
  length_children node around named := by
    obtain ⟨before, after, children, siblings⟩ := children_eq_append_siblings named
    rw [children, siblings, List.length_append, List.length_append, List.length_cons, Nat.add_assoc]
  symmetric node other beside := by
    obtain ⟨different, around, named, alsoNamed⟩ := mem_siblings_iff.1 beside
    exact mem_siblings_iff.2 ⟨different.symm, around, alsoNamed, named⟩
  irreflexive node beside := (mem_siblings_iff.1 beside).1 rfl

end WidgetAudit.WidgetTree
