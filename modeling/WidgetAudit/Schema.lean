import WidgetAudit.Rule

/-!
# Schemas

A schema lists the names that rules may mention. A rule is checked against it before it is
used: it needs a selector, and every name in its guard and in its assertion has to be allowed.
The check reports the first name from the left that is not. Three names need no entry, because
every node has them.
-/

namespace WidgetAudit

/-- The names that a host has registered. -/
structure Schema where
  registered : NameTable Unit
deriving DecidableEq

namespace Schema

/-- The schema without registered names. -/
def empty : Schema := ⟨.empty⟩

/-- Register a name. -/
def register (schema : Schema) (name : String) : Schema := ⟨schema.registered.insert name ()⟩

/-- Register names one after the other. -/
def registerAll (schema : Schema) (names : List String) : Schema :=
  names.foldl register schema

/-- Whether a name has been registered. -/
def isRegistered (schema : Schema) (name : String) : Bool := schema.registered.contains name

/-- The registered names in ascending order. -/
def names (schema : Schema) : List String := schema.registered.names

/-- The number of registered names. -/
def size (schema : Schema) : Nat := schema.registered.size

/-- The names that every node answers to. -/
def commonNames : List String := ["role", "widgetType", "type"]

/-- Whether rules may mention a name. -/
def allows (schema : Schema) (name : String) : Bool :=
  commonNames.contains name || schema.isRegistered name

end Schema

/-- Why a rule is not fit for use. -/
inductive RuleFault
  | unknownName (rule name : String)
  | noSelectors (rule : String)
  | repeatedName (rule : String)
deriving DecidableEq

/-- The message about a fault. -/
def RuleFault.message : RuleFault → String
  | .unknownName rule name => "unknown identifier '" ++ name ++ "' in rule '" ++ rule ++ "'"
  | .noSelectors rule => "rule '" ++ rule ++ "' has no selectors"
  | .repeatedName rule => "duplicate rule name '" ++ rule ++ "'"

variable [RegexEngine]

/-- The first name in an expression, from the left, that a schema does not allow. -/
def Expr.unknownName? (schema : Schema) : Expr → Option String
  | .name identifier => if schema.allows identifier then none else some identifier
  | .property key _ => if schema.allows key then none else some key
  | .unary _ operand => operand.unknownName? schema
  | .binary _ left right => (left.unknownName? schema).or (right.unknownName? schema)
  | .search subject _ => subject.unknownName? schema
  | .quantified _ _ body => body.unknownName? schema
  | .literal _ | .state _ | .count _ => none

/-- The first name in a rule, from the left, that a schema does not allow. -/
def Rule.unknownName? (rule : Rule) (schema : Schema) : Option String :=
  (rule.guard.bind (Expr.unknownName? schema)).or (rule.ensure.unknownName? schema)

/-- Check a rule against a schema. -/
def Rule.validate (rule : Rule) (schema : Schema) : Except RuleFault Unit :=
  if rule.selectors.isEmpty then
    .error (.noSelectors rule.name)
  else
    match rule.unknownName? schema with
    | some name => .error (.unknownName rule.name name)
    | none => .ok ()

end WidgetAudit
