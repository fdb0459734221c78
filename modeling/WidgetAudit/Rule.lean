import WidgetAudit.Expr
import WidgetAudit.NameTable

/-!
# Rules

A rule selects nodes, may restrict them by a guard, and states what has to hold for
them. What it reports when that fails is a plain text.
-/

namespace WidgetAudit

/-- Which nodes a rule is about: every node, those with a role, those of a widget type,
or those whose role belongs to a kind. -/
inductive Selector
  | any
  | role (name : String)
  | type (name : String)
  | kind (name : String)
deriving DecidableEq

variable [RegexEngine]

/-- A rule of an audit. It is about the nodes that one of its selectors picks and for
which the guard, if there is one, is true; for these `ensure` has to be true. -/
structure Rule where
  name : String
  selectors : List Selector
  details : NameTable String
  guard : Option Expr
  ensure : Expr
  report : String
deriving DecidableEq

end WidgetAudit
