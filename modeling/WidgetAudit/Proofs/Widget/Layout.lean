import Mathlib.Data.List.Forall2
import WidgetAudit.Widget.Tree

/-!
# Where nested widgets stand

Laying a nested widget out puts every widget inside it into one contiguous stretch of the
row, its own slot first. `subtrees` lists the nested widgets in the same order without
mentioning places, so it says independently which subtree belongs to which node: the
subtree of node `i` is entry `i` of that list.

The main statement is `standsAt_of_subtrees`: the slots from a node on are exactly the
layout of its subtree. From there the children of a node are found, and each of them
stands again in a stretch of its own.
-/

namespace WidgetAudit

namespace NestedWidget

mutual

/-- A nested widget and everything nested inside it, each before what is inside it. -/
def subtrees : NestedWidget → List NestedWidget
  | .node widget children => .node widget children :: subtreesOfAll children

/-- Several nested widgets and everything inside them, one after the other. -/
def subtreesOfAll : List NestedWidget → List NestedWidget
  | [] => []
  | first :: others => subtrees first ++ subtreesOfAll others

end

mutual

/-- There are as many subtrees as widgets. -/
theorem length_subtrees : ∀ nested : NestedWidget, nested.subtrees.length = nested.size
  | .node _ children => by
    simp only [subtrees, size, List.length_cons, length_subtreesOfAll children]

/-- The subtrees of several nested widgets are as many as their widgets together. -/
theorem length_subtreesOfAll :
    ∀ children : List NestedWidget, (subtreesOfAll children).length = totalSize children
  | [] => rfl
  | first :: others => by
    simp only [subtreesOfAll, totalSize, List.length_append, length_subtrees first,
      length_subtreesOfAll others]

end

/-- The first of the subtrees is the whole. -/
theorem subtrees_zero (nested : NestedWidget) : nested.subtrees[0]? = some nested := by
  cases nested with
  | node widget children => rfl

/-- Every nested widget has at least its own slot. -/
theorem size_positive (nested : NestedWidget) : 0 < nested.size := by
  cases nested with
  | node widget children => exact Nat.succ_pos _

/-- A list of slots holds the layout of a nested widget from an offset on. The place that
the layout is made for is given separately, since the list may itself be a later part of
a row. -/
def LaidOutAt (slots : List WidgetTree.Slot) (offset place : Nat) (nested : NestedWidget) :
    Prop :=
  ∃ parent before after,
    slots = before ++ nested.slotsOf parent place ++ after ∧ before.length = offset

/-- What is laid out in a list is laid out in a longer one, behind what was put in front. -/
theorem LaidOutAt.widen {slots : List WidgetTree.Slot} {offset place : Nat}
    {nested : NestedWidget} (laidOut : LaidOutAt slots offset place nested)
    (front back : List WidgetTree.Slot) :
    LaidOutAt (front ++ slots ++ back) (front.length + offset) place nested := by
  obtain ⟨parent, before, after, same, length⟩ := laidOut
  refine ⟨parent, front ++ before, after ++ back, ?_, ?_⟩
  · simp only [same, List.append_assoc]
  · rw [List.length_append, length]

mutual

/-- The layout of a nested widget holds the layout of each of its subtrees, at the place
that the pre-order gives it. -/
theorem laidOutAt_of_subtrees (parent : Option Nat) (place : Nat) (index : Nat)
    (subtree : NestedWidget) : ∀ nested : NestedWidget,
    nested.subtrees[index]? = some subtree →
      LaidOutAt (nested.slotsOf parent place) index (place + index) subtree
  | .node widget children => by
    intro listed
    cases index with
    | zero =>
      have whole : NestedWidget.node widget children = subtree := by
        simpa only [subtrees, List.getElem?_cons_zero, Option.some.injEq] using listed
      subst whole
      exact ⟨parent, [], [], by simp, rfl⟩
    | succ index =>
      have inside : (subtreesOfAll children)[index]? = some subtree := by
        simpa only [subtrees, List.getElem?_cons_succ] using listed
      have laidOut := laidOutAt_of_subtreesOfAll place (place + 1) index subtree children inside
      have shifted := laidOut.widen [⟨widget, parent, places (place + 1) children⟩] []
      simpa only [slotsOf, List.append_nil, List.singleton_append, List.length_singleton,
        Nat.add_comm 1 index, Nat.add_assoc, Nat.add_comm 1] using shifted

/-- The layout of several nested widgets holds the layout of each of their subtrees. -/
theorem laidOutAt_of_subtreesOfAll (parent place : Nat) (index : Nat)
    (subtree : NestedWidget) : ∀ children : List NestedWidget,
    (subtreesOfAll children)[index]? = some subtree →
      LaidOutAt (slotsOfAll parent place children) index (place + index) subtree
  | [] => by
    intro listed
    simp [subtreesOfAll] at listed
  | first :: others => by
    intro listed
    simp only [subtreesOfAll] at listed
    by_cases early : index < first.subtrees.length
    · rw [List.getElem?_append_left early] at listed
      have laidOut := laidOutAt_of_subtrees (some parent) place index subtree first listed
      simpa only [slotsOfAll, List.nil_append, List.length_nil, Nat.zero_add] using
        laidOut.widen [] (slotsOfAll parent (place + first.size) others)
    · have late : first.subtrees.length ≤ index := Nat.le_of_not_lt early
      rw [List.getElem?_append_right late] at listed
      have laidOut := laidOutAt_of_subtreesOfAll parent (place + first.size)
        (index - first.subtrees.length) subtree others listed
      have shifted := laidOut.widen (first.slotsOf (some parent) place) []
      have offset : (first.slotsOf (some parent) place).length +
          (index - first.subtrees.length) = index := by
        rw [length_slotsOf, length_subtrees] at *
        omega
      have target : place + first.size + (index - first.subtrees.length) = place + index := by
        rw [length_subtrees] at *
        omega
      simpa only [slotsOfAll, List.append_nil, offset, target] using shifted

end

end NestedWidget

namespace WidgetTree

open NestedWidget

/-- A nested widget stands at a node of a tree: the slots from the node on are its layout. -/
def StandsAt (tree : WidgetTree) (node : Nat) (nested : NestedWidget) : Prop :=
  LaidOutAt tree.slots.toList node node nested

/-- The subtree that the pre-order lists for a node stands at that node. -/
theorem standsAt_of_subtrees {tree : WidgetTree} {nested subtree : NestedWidget} {node : Nat}
    (laidOut : tree.slots.toList = nested.slotsOf none 0)
    (listed : nested.subtrees[node]? = some subtree) : tree.StandsAt node subtree := by
  have inside := laidOutAt_of_subtrees none 0 node subtree nested listed
  rw [← laidOut, Nat.zero_add] at inside
  exact inside

/-- In the tree of a nested widget every subtree stands at the node that the pre-order lists it
for. -/
theorem standsAt_ofNested {nested subtree : NestedWidget} {node : Nat}
    (listed : nested.subtrees[node]? = some subtree) :
    (ofNested nested).StandsAt node subtree :=
  standsAt_of_subtrees nested.toList_layOut_empty listed

/-- The size of a tree is the number of widgets that were laid out. -/
theorem size_of_laidOut {tree : WidgetTree} {nested : NestedWidget}
    (laidOut : tree.slots.toList = nested.slotsOf none 0) : tree.size = nested.size := by
  rw [size, ← Array.length_toList, laidOut, length_slotsOf]

/-- A subtree fits into what the tree has behind its node. -/
theorem StandsAt.fits {tree : WidgetTree} {node : Nat} {nested : NestedWidget}
    (stands : tree.StandsAt node nested) : node + nested.size ≤ tree.size := by
  obtain ⟨parent, before, after, same, length⟩ := stands
  have total := congrArg List.length same
  simp only [List.length_append, length_slotsOf, length, Array.length_toList] at total
  simp only [size]
  omega

/-- A nested widget stands at a node of a tree, and the slot of the node names the given place as
that of the widget around it. -/
def StandsUnder (tree : WidgetTree) (parent : Option Nat) (node : Nat) (nested : NestedWidget) :
    Prop :=
  ∃ before after,
    tree.slots.toList = before ++ nested.slotsOf parent node ++ after ∧ before.length = node

/-- What stands under a node stands in the tree. -/
theorem StandsUnder.stands {tree : WidgetTree} {parent : Option Nat} {node : Nat}
    {nested : NestedWidget} (under : tree.StandsUnder parent node nested) :
    tree.StandsAt node nested :=
  ⟨parent, under⟩

/-- The first slot of a subtree holds its outermost widget, the place of the widget around that
one and the places of its children. -/
theorem StandsUnder.slot_eq {tree : WidgetTree} {parent : Option Nat} {node : Nat}
    {widget : Widget} {children : List NestedWidget}
    (under : tree.StandsUnder parent node (.node widget children)) :
    tree.slot node = ⟨widget, parent, places (node + 1) children⟩ := by
  obtain ⟨before, after, same, length⟩ := under
  have found : tree.slots.toList[node]? =
      some ⟨widget, parent, places (node + 1) children⟩ := by
    rw [same, List.append_assoc, List.getElem?_append_right (Nat.le_of_eq length), length]
    simp [slotsOf]
  rw [Array.getElem?_toList] at found
  simp only [slot, found, Option.getD_some]

/-- What stands under a node names it as its parent. -/
theorem StandsUnder.parent?_eq {tree : WidgetTree} {parent : Option Nat} {node : Nat}
    {nested : NestedWidget} (under : tree.StandsUnder parent node nested) :
    tree.parent? node = parent := by
  cases nested with
  | node widget children => simp only [parent?, under.slot_eq]

/-- The first slot of a subtree holds its outermost widget and the places of its children. -/
theorem StandsAt.slot_eq {tree : WidgetTree} {node : Nat} {widget : Widget}
    {children : List NestedWidget} (stands : tree.StandsAt node (.node widget children)) :
    ∃ parent, tree.slot node = ⟨widget, parent, places (node + 1) children⟩ := by
  obtain ⟨parent, under⟩ := stands
  exact ⟨parent, StandsUnder.slot_eq under⟩

/-- The node at which a nested widget stands holds its outermost widget. -/
theorem StandsAt.widget_eq {tree : WidgetTree} {node : Nat} {nested : NestedWidget}
    (stands : tree.StandsAt node nested) : tree.widget node = nested.widget := by
  obtain ⟨widget, children⟩ := nested
  obtain ⟨parent, same⟩ := stands.slot_eq
  rw [WidgetTree.widget, same]
  rfl

/-- The children of a node are the places from the next one on. -/
theorem StandsAt.children_eq {tree : WidgetTree} {node : Nat} {widget : Widget}
    {children : List NestedWidget} (stands : tree.StandsAt node (.node widget children)) :
    tree.children node = places (node + 1) children := by
  obtain ⟨parent, same⟩ := stands.slot_eq
  simp only [WidgetTree.children, same]

/-- Nested widgets whose slots follow one another stand at the places counted for them. -/
theorem stand_of_slotsOfAll {tree : WidgetTree} (children : List NestedWidget)
    {parent place : Nat} {before after : List Slot}
    (same : tree.slots.toList = before ++ slotsOfAll parent place children ++ after)
    (length : before.length = place) :
    List.Forall₂ (tree.StandsUnder (some parent)) (places place children) children := by
  induction children generalizing place before with
  | nil => exact .nil
  | cons first others inductionHypothesis =>
    simp only [slotsOfAll] at same
    have sameBehind : tree.slots.toList = before ++ first.slotsOf (some parent) place ++
        slotsOfAll parent (place + first.size) others ++ after := by
      simpa only [List.append_assoc] using same
    have lengthBehind : (before ++ first.slotsOf (some parent) place).length =
        place + first.size := by
      rw [List.length_append, length, length_slotsOf]
    refine .cons ?_ (inductionHypothesis sameBehind lengthBehind)
    exact ⟨before, slotsOfAll parent (place + first.size) others ++ after,
      by simpa only [List.append_assoc] using same, length⟩

/-- Every child of a node stands under that node, at the place that the node knows it by. -/
theorem StandsAt.children_under {tree : WidgetTree} {node : Nat} {widget : Widget}
    {children : List NestedWidget} (stands : tree.StandsAt node (.node widget children)) :
    List.Forall₂ (tree.StandsUnder (some node)) (tree.children node) children := by
  rw [stands.children_eq]
  obtain ⟨parent, before, after, same, length⟩ := stands
  have sameBehind : tree.slots.toList = before ++ [⟨widget, parent, places (node + 1) children⟩] ++
      slotsOfAll node (node + 1) children ++ after := by
    simpa only [slotsOf, List.append_assoc, List.cons_append, List.nil_append] using same
  have lengthBehind : (before ++ [(⟨widget, parent, places (node + 1) children⟩ : Slot)]).length =
      node + 1 := by
    rw [List.length_append, length, List.length_singleton]
  exact stand_of_slotsOfAll children sameBehind lengthBehind

/-- Every child of a node stands at the place that the node knows it by. -/
theorem StandsAt.children_stand {tree : WidgetTree} {node : Nat} {widget : Widget}
    {children : List NestedWidget} (stands : tree.StandsAt node (.node widget children)) :
    List.Forall₂ tree.StandsAt (tree.children node) children :=
  stands.children_under.imp fun _ _ => StandsUnder.stands

end WidgetTree

end WidgetAudit
