import WidgetAudit.NameTable
import WidgetAudit.Value

/-!
# Widgets

What a widget says about itself, and a widget with the widgets inside it. A property that
has been set to the null value is present but not resolved, which a rule cannot tell from
a property that was never set.
-/

namespace WidgetAudit

/-- A widget's own data. A new widget is visible and enabled and can neither be focused nor
pressed. -/
structure Widget where
  role : String
  type : String
  focusable : Bool := false
  enabled : Bool := true
  hidden : Bool := false
  checked : Bool := false
  toggled : Bool := false
  mergesDescendants : Bool := false
  hasTap : Bool := false
  hasLongPress : Bool := false
  properties : NameTable Value := .empty
deriving DecidableEq, Inhabited

namespace Widget

/-- Set a property. -/
def set (widget : Widget) (name : String) (value : Value) : Widget :=
  { widget with properties := widget.properties.insert name value }

/-- The value of a property, unless it is absent or null. -/
def property? (widget : Widget) (name : String) : Option Value :=
  (widget.properties.find? name).filter fun value => !value.isNull

/-- Whether a property has a value other than null. -/
def isResolved (widget : Widget) (name : String) : Bool :=
  match widget.properties.find? name with
  | some value => !value.isNull
  | none => false

/-- Whether the focus stops at a widget. -/
def isFocusStop (widget : Widget) : Bool := widget.focusable && !widget.hidden

end Widget

/-- A widget and the widgets inside it, in their order. -/
inductive NestedWidget
  | node (widget : Widget) (children : List NestedWidget)

instance : Inhabited NestedWidget := ⟨.node default []⟩

namespace NestedWidget

/-- The data of the outermost widget. -/
def widget : NestedWidget → Widget
  | .node widget _ => widget

/-- The widgets directly inside. -/
def children : NestedWidget → List NestedWidget
  | .node _ children => children

mutual

/-- The number of widgets, the outermost one included. -/
def size : NestedWidget → Nat
  | .node _ children => totalSize children + 1

/-- The number of widgets in several nested ones together. -/
def totalSize : List NestedWidget → Nat
  | [] => 0
  | first :: others => size first + totalSize others

end

end NestedWidget

end WidgetAudit
