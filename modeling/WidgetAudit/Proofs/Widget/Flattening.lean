import Mathlib.Logic.Relation
import WidgetAudit.Proofs.Widget.Layout

/-!
# What the row of a tree keeps

A tree is laid out by a recursion over the nested widget, which lets a row of slots grow and goes
back to the slot of a widget each time something inside it has been put there. Of the way there the
finished row shows nothing: the slots from a node on are the layout of one subtree, whatever came
before it. So everything here is read off `StandsAt`, by going from a node to its children.

Three readings of the row agree with one another and with the nested widget: the parents and the
children name each other, what is reached along the children is a stretch of the row, and the
nested widget that is rebuilt along the children is the one that was laid out.
-/

namespace WidgetAudit

namespace NestedWidget

/-- A place of widgets that stand one after the other belongs to one of them, whose stretch lies
within theirs. -/
theorem stretch_of_mem_places {children : List NestedWidget} {first place : Nat}
    (listed : place ∈ places first children) :
    ∃ inside, (place, inside) ∈ (places first children).zip children ∧ first ≤ place ∧
      place + inside.size ≤ first + totalSize children := by
  induction children generalizing first with
  | nil => simp [places] at listed
  | cons nested others inductionHypothesis =>
    simp only [places, List.zip_cons_cons, totalSize]
    obtain here | later := List.mem_cons.1 listed
    · exact ⟨nested, by rw [here]; exact List.mem_cons_self, Nat.le_of_eq here.symm, by omega⟩
    · obtain ⟨inside, standing, least, most⟩ := inductionHypothesis later
      exact ⟨inside, List.mem_cons_of_mem _ standing, by omega, by omega⟩

/-- The places of widgets that stand one after the other ascend. -/
theorem pairwise_places (first : Nat) (children : List NestedWidget) :
    (places first children).Pairwise (· < ·) := by
  induction children generalizing first with
  | nil => exact .nil
  | cons nested others inductionHypothesis =>
    refine .cons ?_ (inductionHypothesis (first + nested.size))
    intro place listed
    obtain ⟨inside, _, least, _⟩ := stretch_of_mem_places listed
    have positive := nested.size_positive
    omega

mutual

/-- The slots of a nested widget hold its widgets, each before what is inside it. -/
theorem map_widget_slotsOf (parent : Option Nat) (place : Nat) : ∀ nested : NestedWidget,
    (nested.slotsOf parent place).map WidgetTree.Slot.widget =
      nested.subtrees.map NestedWidget.widget
  | .node widget children => by
    rw [slotsOf, subtrees, List.map_cons, List.map_cons, map_widget_slotsOfAll]
    rfl

/-- The slots of several nested widgets hold their widgets. -/
theorem map_widget_slotsOfAll (parent place : Nat) : ∀ children : List NestedWidget,
    (slotsOfAll parent place children).map WidgetTree.Slot.widget =
      (subtreesOfAll children).map NestedWidget.widget
  | [] => rfl
  | first :: others => by
    rw [slotsOfAll, subtreesOfAll, List.map_append, List.map_append,
      map_widget_slotsOf (some parent) place first,
      map_widget_slotsOfAll parent (place + first.size) others]

end

end NestedWidget

namespace WidgetTree

open NestedWidget

variable {tree : WidgetTree}

/-! ### Children and parents -/

/-- Outside of the row there is an empty slot. -/
theorem slot_outside {node : Nat} (outside : tree.size ≤ node) : tree.slot node = default := by
  rw [slot, Array.getElem?_eq_none outside, Option.getD_none]

/-- Something stands at every node. -/
theorem exists_standsAt {node : Nat} (inTree : node < tree.size) :
    ∃ subtree, tree.StandsAt node subtree := by
  obtain ⟨nested, laidOut⟩ := tree.laidOut
  have counted : node < nested.subtrees.length := by
    rw [length_subtrees, ← size_of_laidOut laidOut]
    exact inTree
  exact ⟨_, standsAt_of_subtrees laidOut (List.getElem?_eq_getElem counted)⟩

/-- What stands at a child of a node stands under the node, within the stretch of the node. -/
theorem StandsAt.child_under {node child : Nat} {subtree : NestedWidget}
    (stands : tree.StandsAt node subtree) (listed : child ∈ tree.children node) :
    ∃ inside, tree.StandsUnder (some node) child inside ∧ node < child ∧
      child + inside.size ≤ node + subtree.size := by
  obtain ⟨widget, children⟩ := subtree
  have under := stands.children_under
  rw [stands.children_eq] at listed under
  obtain ⟨inside, standing, least, most⟩ := stretch_of_mem_places listed
  refine ⟨inside, (List.forall₂_iff_zip.1 under).2 standing, least, ?_⟩
  simp only [NestedWidget.size]
  omega

/-- The nodes that a node knows as its children stand under it, and behind it in the row. -/
theorem child_under {node child : Nat} (listed : child ∈ tree.children node) :
    ∃ inside, tree.StandsUnder (some node) child inside ∧ node < child ∧
      child + inside.size ≤ tree.size := by
  have inTree : node < tree.size := by
    by_contra outside
    rw [children, slot_outside (Nat.le_of_not_lt outside)] at listed
    exact List.not_mem_nil listed
  obtain ⟨subtree, stands⟩ := exists_standsAt inTree
  obtain ⟨inside, under, behind, within⟩ := stands.child_under listed
  exact ⟨inside, under, behind, Nat.le_trans within stands.fits⟩

/-- The children of a node stand behind it in the row. -/
theorem bounds_of_mem_children {node child : Nat} (listed : child ∈ tree.children node) :
    node < child ∧ child < tree.size := by
  obtain ⟨inside, _, behind, within⟩ := child_under listed
  have positive := inside.size_positive
  exact ⟨behind, by omega⟩

/-- The children of a node ascend. -/
theorem pairwise_children (tree : WidgetTree) (node : Nat) :
    (tree.children node).Pairwise (· < ·) := by
  by_cases inTree : node < tree.size
  · obtain ⟨⟨widget, children⟩, stands⟩ := exists_standsAt inTree
    rw [stands.children_eq]
    exact pairwise_places _ _
  · rw [children, slot_outside (Nat.le_of_not_lt inTree)]
    exact .nil

/-- The outermost widget has nothing around it. -/
theorem parent?_zero (tree : WidgetTree) : tree.parent? 0 = none := by
  obtain ⟨nested, laidOut⟩ := tree.laidOut
  have under : tree.StandsUnder none 0 nested := ⟨[], [], by simpa using laidOut, rfl⟩
  exact under.parent?_eq

/-! ### Stretches -/

/-- A node is reached from another one along the children. -/
def Reaches (tree : WidgetTree) : Nat → Nat → Prop :=
  Relation.ReflTransGen fun node child => child ∈ tree.children node

/-- What is reached from a node lies in the stretch of the node. -/
theorem StandsAt.within_of_reaches {node other : Nat} (reaches : tree.Reaches node other) :
    ∀ {subtree : NestedWidget}, tree.StandsAt node subtree →
      node ≤ other ∧ other < node + subtree.size := by
  induction reaches using Relation.ReflTransGen.head_induction_on with
  | refl =>
    intro subtree _
    exact ⟨Nat.le_refl _, Nat.lt_add_of_pos_right subtree.size_positive⟩
  | head listed _ inductionHypothesis =>
    intro subtree stands
    obtain ⟨inside, under, behind, within⟩ := stands.child_under listed
    obtain ⟨least, most⟩ := inductionHypothesis under.stands
    omega

mutual

/-- Everything in the stretch of a node is reached from the node. -/
theorem StandsAt.reaches {node other : Nat} : ∀ {subtree : NestedWidget},
    tree.StandsAt node subtree → node ≤ other → other < node + subtree.size →
      tree.Reaches node other
  | .node widget children, stands, least, most => by
    obtain here | behind := Nat.eq_or_lt_of_le least
    · subst here
      exact .refl
    · have inside := stands.children_stand
      rw [stands.children_eq] at inside
      simp only [NestedWidget.size] at most
      obtain ⟨child, listed, onwards⟩ := reaches_of_all inside behind (by omega)
      rw [← stands.children_eq] at listed
      exact .head listed onwards

/-- Everything in the stretch of several nodes that follow one another is reached from one of
them. -/
theorem reaches_of_all {first other : Nat} : ∀ {children : List NestedWidget},
    List.Forall₂ tree.StandsAt (places first children) children → first ≤ other →
      other < first + totalSize children → ∃ child ∈ places first children, tree.Reaches child other
  | [], _, least, most => by
    simp only [totalSize] at most
    omega
  | nested :: others, stand, least, most => by
    simp only [places] at stand ⊢
    obtain ⟨stands, behind⟩ := List.forall₂_cons.1 stand
    by_cases early : other < first + nested.size
    · exact ⟨first, List.mem_cons_self, stands.reaches least early⟩
    · simp only [totalSize] at most
      obtain ⟨child, listed, onwards⟩ :=
        reaches_of_all behind (Nat.le_of_not_lt early) (by omega)
      exact ⟨child, List.mem_cons_of_mem _ listed, onwards⟩

end

/-- From a node exactly the stretch of the node is reached. -/
theorem StandsAt.reaches_iff {node other : Nat} {subtree : NestedWidget}
    (stands : tree.StandsAt node subtree) :
    tree.Reaches node other ↔ node ≤ other ∧ other < node + subtree.size :=
  ⟨fun reaches => StandsAt.within_of_reaches reaches stands,
    fun within => stands.reaches within.1 within.2⟩

/-- Every node but the outermost one is a child of some node. -/
theorem exists_parent {node : Nat} (inTree : node < tree.size) (inner : node ≠ 0) :
    ∃ around, node ∈ tree.children around := by
  obtain ⟨nested, laidOut⟩ := tree.laidOut
  have stands := standsAt_of_subtrees laidOut nested.subtrees_zero
  have within : node < 0 + nested.size := by
    rw [Nat.zero_add, ← size_of_laidOut laidOut]
    exact inTree
  obtain same | ⟨around, _, listed⟩ := (stands.reaches (Nat.zero_le node) within).cases_tail
  · exact absurd same inner
  · exact ⟨around, listed⟩

/-- The children of a node are the nodes that name it as their parent. -/
theorem mem_children_iff {node child : Nat} :
    child ∈ tree.children node ↔ tree.parent? child = some node := by
  have parent_of_listed {node : Nat} (listed : child ∈ tree.children node) :
      tree.parent? child = some node := by
    obtain ⟨_, under, _⟩ := child_under listed
    exact under.parent?_eq
  refine ⟨parent_of_listed, fun named => ?_⟩
  have inTree : child < tree.size := by
    by_contra outside
    rw [parent?, slot_outside (Nat.le_of_not_lt outside)] at named
    cases named
  have inner : child ≠ 0 := by
    rintro rfl
    rw [parent?_zero] at named
    cases named
  obtain ⟨around, listed⟩ := exists_parent inTree inner
  have same : around = node := Option.some.inj ((parent_of_listed listed).symm.trans named)
  exact same ▸ listed

/-! ### Rebuilding -/

/-- The nested widget that is rebuilt from a node along the children. They stand behind the node,
so the way down ends. -/
def nestedAt (tree : WidgetTree) (node : Nat) : NestedWidget :=
  .node (tree.widget node) ((tree.children node).attach.map fun child => nestedAt tree child.1)
termination_by tree.size - node
decreasing_by
  have bounds := bounds_of_mem_children child.2
  omega

/-- A node is rebuilt from its own data and its rebuilt children. -/
theorem nestedAt_eq (tree : WidgetTree) (node : Nat) :
    tree.nestedAt node = .node (tree.widget node) ((tree.children node).map tree.nestedAt) := by
  rw [nestedAt, List.map_attach_eq_pmap, List.pmap_eq_map]

mutual

/-- What stands at a node is what is rebuilt from it. -/
theorem StandsAt.nestedAt_eq {node : Nat} : ∀ {subtree : NestedWidget},
    tree.StandsAt node subtree → tree.nestedAt node = subtree
  | .node widget children, stands => by
    rw [WidgetTree.nestedAt_eq, stands.widget_eq, map_nestedAt_eq stands.children_stand]
    rfl

/-- What stands at several nodes is what is rebuilt from them. -/
theorem map_nestedAt_eq : ∀ {nodes : List Nat} {forest : List NestedWidget},
    List.Forall₂ tree.StandsAt nodes forest → nodes.map tree.nestedAt = forest
  | [], [], _ => rfl
  | first :: others, nested :: forest, stand => by
    obtain ⟨stands, behind⟩ := List.forall₂_cons.1 stand
    rw [List.map_cons, stands.nestedAt_eq, map_nestedAt_eq behind]

end

/-! ### The whole row -/

/-- A tree keeps a nested widget: its row is well formed and nothing is lost in it. -/
structure Keeps (tree : WidgetTree) (nested : NestedWidget) : Prop where
  /-- There are as many nodes as widgets. -/
  size : tree.size = nested.size
  /-- The nodes hold the widgets in the order that puts each before what is inside it. -/
  widgets : tree.slots.toList.map Slot.widget = nested.subtrees.map NestedWidget.widget
  /-- Only the outermost node has nothing around it. -/
  outermost : ∀ node, node < tree.size → (tree.parent? node = none ↔ node = 0)
  /-- What is around a node stands before it. -/
  around_before : ∀ node around, tree.parent? node = some around → around < node
  /-- The children of a node ascend. -/
  ascending : ∀ node, (tree.children node).Pairwise (· < ·)
  /-- The children of a node are the nodes that it is around. -/
  mem_children : ∀ node child, child ∈ tree.children node ↔ tree.parent? child = some node
  /-- They hold the widgets that are directly inside that of the node, in their order. -/
  inside : ∀ node subtree, nested.subtrees[node]? = some subtree →
    List.Forall₂ (fun child inside => nested.subtrees[child]? = some inside) (tree.children node)
      subtree.children
  /-- The nodes inside a node, itself included, are one stretch of the row, which begins with it. -/
  stretch : ∀ node subtree, nested.subtrees[node]? = some subtree →
    ∀ other, tree.Reaches node other ↔ node ≤ other ∧ other < node + subtree.size
  /-- From the outermost node on the nested widget is rebuilt. -/
  rebuilt : tree.nestedAt 0 = nested

/-- The subtree that stands at a node is the one that the nested widget has in its place. -/
theorem StandsAt.listed {nested : NestedWidget}
    (laidOut : tree.slots.toList = nested.slotsOf none 0) {node : Nat} {subtree : NestedWidget}
    (stands : tree.StandsAt node subtree) : nested.subtrees[node]? = some subtree := by
  have counted : node < nested.subtrees.length := by
    rw [length_subtrees, ← size_of_laidOut laidOut]
    exact Nat.lt_of_lt_of_le (Nat.lt_add_of_pos_right subtree.size_positive) stands.fits
  have listed := List.getElem?_eq_getElem counted
  have same := (standsAt_of_subtrees laidOut listed).nestedAt_eq
  rw [listed, ← same, stands.nestedAt_eq]

/-- Laying a nested widget out loses nothing of it and gives a well-formed row, whatever the
nested widget is.

Proof: the row holds the slots that the nested widget has from the first place on, so its subtrees
stand at the nodes in their order. Everything that is said of a node is read off the subtree that
stands there. -/
theorem ofNested_keeps (nested : NestedWidget) : (ofNested nested).Keeps nested := by
  have laidOut : (ofNested nested).slots.toList = nested.slotsOf none 0 :=
    nested.toList_layOut_empty
  have stands {node : Nat} {subtree : NestedWidget}
      (listed : nested.subtrees[node]? = some subtree) :
      (ofNested nested).StandsAt node subtree :=
    standsAt_of_subtrees laidOut listed
  refine ⟨size_of_laidOut laidOut, ?_, ?_, ?_, pairwise_children _, ?_, ?_, ?_, ?_⟩
  · rw [laidOut, map_widget_slotsOf]
  · intro node inTree
    refine ⟨fun alone => ?_, fun first => first ▸ parent?_zero _⟩
    by_contra inner
    obtain ⟨around, listed⟩ := exists_parent inTree inner
    rw [mem_children_iff, alone] at listed
    cases listed
  · intro node around named
    exact (bounds_of_mem_children (mem_children_iff.2 named)).1
  · intro node child
    exact mem_children_iff
  · intro node subtree listed
    obtain ⟨widget, children⟩ := subtree
    exact (stands listed).children_stand.imp fun _ _ inside => inside.listed laidOut
  · intro node subtree listed other
    exact (stands listed).reaches_iff
  · exact (stands nested.subtrees_zero).nestedAt_eq

end WidgetTree

end WidgetAudit
