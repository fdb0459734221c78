import WidgetAudit.Pattern
import WidgetAudit.Value

/-!
# Expressions

The conditions of a rule are expressions over one node of a widget tree: its states,
its properties, its name parts, and the nodes that stand in some relation to it.
This module holds their form only. The words and signs of the enumerations are those
of the written language, and no two members of one enumeration share a word.
-/

namespace WidgetAudit

/-- A sign in front of an operand. -/
inductive UnaryOperator
  | not
  | negate
deriving DecidableEq

/-- A sign or word between two operands. -/
inductive BinaryOperator
  | or
  | and
  | equal
  | notEqual
  | looselyEqual
  | contains
  | matching
  | less
  | lessOrEqual
  | greater
  | greaterOrEqual
  | add
  | subtract
  | multiply
  | divide
deriving DecidableEq

/-- The way from a node to related nodes. -/
inductive Relation
  | children
  | ancestors
  | siblings
  | nextFocus
  | previousFocus
deriving DecidableEq

/-- How many of the related nodes have to satisfy a condition. -/
inductive Quantifier
  | any
  | all
  | none
deriving DecidableEq

/-- A fact about a node that either holds or does not. -/
inductive NodeState
  | focusable
  | enabled
  | hidden
  | checked
  | toggled
  | mergesDescendants
  | hasTap
  | hasLongPress
  | isEmpty
  | isNotEmpty
deriving DecidableEq

/-- How a property is read: its value, the value cast, or whether it has one. -/
inductive PropertyAccess
  | raw
  | cast (target : CastTarget)
  | isResolved
deriving DecidableEq

/-- An expression. A search for a pattern that is known beforehand keeps the compiled
pattern; one for a pattern that is computed is the binary operator `matching`. -/
inductive Expr [RegexEngine]
  | literal (value : Value)
  | state (state : NodeState)
  | property (name : String) (access : PropertyAccess)
  | name (name : String)
  | unary (operator : UnaryOperator) (operand : Expr)
  | binary (operator : BinaryOperator) (left right : Expr)
  | search (subject : Expr) (pattern : Pattern)
  | quantified (relation : Relation) (quantifier : Quantifier) (body : Expr)
  | count (relation : Relation)
deriving DecidableEq

instance [RegexEngine] : Inhabited Expr := ⟨.literal .null⟩

/-! ### Words and signs -/

/-- The sign of a unary operator. -/
def UnaryOperator.sign : UnaryOperator → Char
  | .not => '!'
  | .negate => '-'

/-- The sign or word of a binary operator. -/
def BinaryOperator.sign : BinaryOperator → String
  | .or => "||"
  | .and => "&&"
  | .equal => "=="
  | .notEqual => "!="
  | .looselyEqual => "~="
  | .contains => "contains"
  | .matching => "matches"
  | .less => "<"
  | .lessOrEqual => "<="
  | .greater => ">"
  | .greaterOrEqual => ">="
  | .add => "+"
  | .subtract => "-"
  | .multiply => "*"
  | .divide => "/"

namespace Relation

/-- The word of a relation. -/
def word : Relation → String
  | .children => "children"
  | .ancestors => "ancestors"
  | .siblings => "siblings"
  | .nextFocus => "next_focus"
  | .previousFocus => "prev_focus"

/-- Every relation. -/
def all : List Relation := [.children, .ancestors, .siblings, .nextFocus, .previousFocus]

/-- The relation that a word names. -/
def ofWord? (word : String) : Option Relation := all.find? fun relation => relation.word == word

/-- A relation is found by its word. -/
theorem ofWord?_word (relation : Relation) : ofWord? relation.word = some relation := by
  cases relation <;> decide

end Relation

/-- The word of a quantifier. -/
def Quantifier.word : Quantifier → String
  | .any => "any"
  | .all => "all"
  | .none => "none"

namespace NodeState

/-- The word of a state. -/
def word : NodeState → String
  | .focusable => "focusable"
  | .enabled => "enabled"
  | .hidden => "hidden"
  | .checked => "checked"
  | .toggled => "toggled"
  | .mergesDescendants => "merges_descendants"
  | .hasTap => "has_tap"
  | .hasLongPress => "has_long_press"
  | .isEmpty => "is_empty"
  | .isNotEmpty => "is_not_empty"

/-- Every state. -/
def all : List NodeState :=
  [.focusable, .enabled, .hidden, .checked, .toggled, .mergesDescendants, .hasTap,
    .hasLongPress, .isEmpty, .isNotEmpty]

/-- The state that a word names. -/
def ofWord? (word : String) : Option NodeState := all.find? fun state => state.word == word

/-- A state is found by its word. -/
theorem ofWord?_word (state : NodeState) : ofWord? state.word = some state := by
  cases state <;> decide

end NodeState

/-- The word of a cast's target. -/
def CastTarget.word : CastTarget → String
  | .int => "int"
  | .string => "string"
  | .bool => "bool"

end WidgetAudit
