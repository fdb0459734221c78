import WidgetAudit.Host
import WidgetAudit.Widget

/-!
# Widget trees

A widget tree keeps its widgets in one row, each before the widgets inside it, and knows a
widget by its place in that row. A slot of the row holds the widget, the place of the widget
around it, and the places of the widgets directly inside it. `layOut` puts a nested widget at the
end of a row: its own slot first, which learns the places of the widgets inside it only as each of
them has been put there. `slotsOf` says which slots these are in the end; that every tree has been
laid out so is part of its type.

From the slots follow the relations between nodes. The order of the row is also the order of
the focus: the next stop of a node is the nearest one behind it.
-/

namespace WidgetAudit

/-- A place in the row of a tree. -/
structure WidgetTree.Slot where
  widget : Widget
  parent : Option Nat
  children : List Nat
deriving Inhabited

namespace NestedWidget

/-- The places of widgets that stand one after the other from a given place on. -/
def places (first : Nat) : List NestedWidget → List Nat
  | [] => []
  | nested :: others => first :: places (first + nested.size) others

mutual

/-- The slots of a nested widget that stands at a given place. -/
def slotsOf (parent : Option Nat) (place : Nat) : NestedWidget → List WidgetTree.Slot
  | .node widget children =>
    ⟨widget, parent, places (place + 1) children⟩ :: slotsOfAll place (place + 1) children

/-- The slots of the widgets inside one, from a given place on. -/
def slotsOfAll (parent : Nat) (place : Nat) : List NestedWidget → List WidgetTree.Slot
  | [] => []
  | first :: others =>
    slotsOf (some parent) place first ++ slotsOfAll parent (place + first.size) others

end

mutual

/-- A nested widget takes as many slots as it has widgets. -/
theorem length_slotsOf (parent : Option Nat) (place : Nat) :
    ∀ nested : NestedWidget, (nested.slotsOf parent place).length = nested.size
  | .node _ children => by
    simp only [slotsOf, size, List.length_cons, length_slotsOfAll place (place + 1) children]

/-- Several nested widgets take as many slots as they have widgets together. -/
theorem length_slotsOfAll (parent place : Nat) :
    ∀ children : List NestedWidget, (slotsOfAll parent place children).length = totalSize children
  | [] => rfl
  | first :: others => by
    simp only [slotsOfAll, totalSize, List.length_append,
      length_slotsOf (some parent) place first,
      length_slotsOfAll parent (place + first.size) others]

end

/-! ### Laying out -/

mutual

/-- Put a nested widget at the end of a row of slots. -/
def layOut (slots : Array WidgetTree.Slot) (parent : Option Nat) :
    NestedWidget → Array WidgetTree.Slot
  | .node widget children =>
    let place := slots.size
    layOutAll (slots.push ⟨widget, parent, []⟩) place children

/-- Put the widgets inside one at the end of a row, and note in its slot where each of them has
been put. -/
def layOutAll (slots : Array WidgetTree.Slot) (parent : Nat) :
    List NestedWidget → Array WidgetTree.Slot
  | [] => slots
  | first :: others =>
    let place := slots.size
    let grown := layOut slots (some parent) first
    layOutAll (grown.modify parent fun slot => { slot with children := slot.children ++ [place] })
      parent others

end

mutual

/-- A nested widget that has been put at the end of a row has left the row as it was and has
added its own slots. -/
theorem toList_layOut (slots : Array WidgetTree.Slot) (parent : Option Nat) :
    ∀ nested : NestedWidget, (layOut slots parent nested).toList =
      slots.toList ++ slotsOf parent slots.size nested
  | .node widget children => by
    have atEnd : (slots.push ⟨widget, parent, []⟩).toList =
        slots.toList ++ ⟨widget, parent, []⟩ :: [] := Array.toList_push
    have inside := toList_layOutAll (slots.push ⟨widget, parent, []⟩) children atEnd
    simpa only [layOut, slotsOf, Array.length_toList, Array.size_push, List.nil_append] using inside

/-- While the widgets inside one are put at the end of a row, only the slot of that widget
changes: the places of those that have been put there are added to it, in their order. -/
theorem toList_layOutAll (slots : Array WidgetTree.Slot) :
    ∀ (children : List NestedWidget) {before between : List WidgetTree.Slot}
      {around : WidgetTree.Slot}, slots.toList = before ++ around :: between →
      (layOutAll slots before.length children).toList =
        before ++ { around with children := around.children ++ places slots.size children } ::
          (between ++ slotsOfAll before.length slots.size children)
  | [], before, between, around, form => by
    simp only [layOutAll, places, slotsOfAll, List.append_nil, form]
  | first :: others, before, between, around, form => by
    have grown := toList_layOut slots (some before.length) first
    have grownSize : (layOut slots (some before.length) first).size = slots.size + first.size := by
      rw [← Array.length_toList, grown, List.length_append, length_slotsOf, Array.length_toList]
    have noted : ((layOut slots (some before.length) first).modify before.length fun slot =>
        { slot with children := slot.children ++ [slots.size] }).toList =
        before ++ { around with children := around.children ++ [slots.size] } ::
          (between ++ slotsOf (some before.length) slots.size first) := by
      rw [Array.toList_modify, grown, form, List.modify_eq_take_drop]
      simp
    have later := toList_layOutAll _ others noted
    simpa only [layOutAll, places, slotsOfAll, Array.size_modify, grownSize, List.append_assoc,
      List.singleton_append] using later

end

/-- An empty row becomes the slots of the nested widget that is put there. -/
theorem toList_layOut_empty (nested : NestedWidget) :
    (nested.layOut #[] none).toList = nested.slotsOf none 0 := by
  rw [toList_layOut, Array.toList_empty, List.nil_append]
  rfl

end NestedWidget

/-- A widget tree. -/
structure WidgetTree where
  slots : Array WidgetTree.Slot
  laidOut : ∃ nested : NestedWidget, slots.toList = nested.slotsOf none 0

namespace WidgetTree

/-- The tree of a nested widget, which is laid out from an empty row on. -/
def ofNested (nested : NestedWidget) : WidgetTree where
  slots := nested.layOut #[] none
  laidOut := ⟨nested, nested.toList_layOut_empty⟩

/-- The number of nodes. -/
def size (tree : WidgetTree) : Nat := tree.slots.size

/-- Every node, in the order of the row. -/
def nodes (tree : WidgetTree) : List Nat := List.range tree.size

/-- The slot at a place. There is none outside of the row, where no relation leads; an empty
one stands for it. -/
def slot (tree : WidgetTree) (node : Nat) : Slot := tree.slots[node]?.getD default

/-- The data of a node. -/
def widget (tree : WidgetTree) (node : Nat) : Widget := (tree.slot node).widget

/-! ### Relations -/

/-- The node around a node. -/
def parent? (tree : WidgetTree) (node : Nat) : Option Nat := (tree.slot node).parent

/-- The nodes directly inside a node. -/
def children (tree : WidgetTree) (node : Nat) : List Nat := (tree.slot node).children

/-- The nodes around a node, the nearest one first. A parent stands before its children, so
the way up ends. -/
def ancestors (tree : WidgetTree) (node : Nat) : List Nat :=
  match tree.parent? node with
  | none => []
  | some parent => if parent < node then parent :: ancestors tree parent else []
termination_by node

/-- The other children of a node's parent, in their order. -/
def siblings (tree : WidgetTree) (node : Nat) : List Nat :=
  match tree.parent? node with
  | none => []
  | some parent => (tree.children parent).filter (· != node)

/-- Whether the focus stops at a node. -/
def isFocusStop (tree : WidgetTree) (node : Nat) : Bool := (tree.widget node).isFocusStop

/-- The first stop of the focus behind a node, if there is one. -/
def nextFocus (tree : WidgetTree) (node : Nat) : List Nat :=
  ((List.range' (node + 1) (tree.size - (node + 1))).find? tree.isFocusStop).toList

/-- The last stop of the focus before a node, if there is one. -/
def previousFocus (tree : WidgetTree) (node : Nat) : List Nat :=
  ((List.range node).reverse.find? tree.isFocusStop).toList

/-! ### Hosts -/

/-- The tree as a host that answers only what every host has to answer. -/
def plainHost (tree : WidgetTree) : Host Nat where
  role node := (tree.widget node).role
  type node := (tree.widget node).type
  isFocusable node := (tree.widget node).focusable
  isEnabled node := (tree.widget node).enabled
  isHidden node := (tree.widget node).hidden
  mergesDescendants node := (tree.widget node).mergesDescendants
  hasTap node := (tree.widget node).hasTap
  hasLongPress node := (tree.widget node).hasLongPress
  children := tree.children
  ancestors := tree.ancestors
  siblings := tree.siblings
  property? node := (tree.widget node).property?
  isResolved node := (tree.widget node).isResolved
  size := tree.size

/-- The tree as a host that answers everything. -/
def host (tree : WidgetTree) : Host Nat :=
  { tree.plainHost with
    isChecked := fun node => (tree.widget node).checked
    isToggled := fun node => (tree.widget node).toggled
    nextFocus := tree.nextFocus
    previousFocus := tree.previousFocus }

end WidgetTree

end WidgetAudit
