import WidgetAudit.Proofs.Expr.Parts
import WidgetAudit.Schema

/-!
# What rules mention

Of a node an expression can ask for a state, for the value of a name, or for the nodes in some
relation to it; it asks by mentioning that state, name or relation. So the list of mentions bounds
what an evaluation can depend on, before anything has been evaluated. The names among them are what
a schema is asked about, in the same order.
-/

namespace WidgetAudit

/-- Something that an expression can ask of a node. -/
inductive Mention
  | state (state : NodeState)
  | name (name : String)
  | relation (relation : Relation)
deriving DecidableEq

/-- The name that is mentioned, if it is a name. -/
def Mention.name? : Mention → Option String
  | .name identifier => some identifier
  | _ => none

namespace Expr

variable [RegexEngine]

/-- What an expression mentions by itself, apart from what stands inside it. -/
def ownMention? : Expr → Option Mention
  | .state fact => some (.state fact)
  | .property key _ => some (.name key)
  | .name identifier => some (.name identifier)
  | .quantified relation _ _ => some (.relation relation)
  | .count relation => some (.relation relation)
  | .literal _ | .unary .. | .binary .. | .search .. => none

/-- Everything that an expression mentions, from left to right. -/
def mentions (expr : Expr) : List Mention := expr.parts.filterMap ownMention?

/-- The operands of an operator mention what the operation mentions. -/
theorem mentions_binary (operator : BinaryOperator) (left right : Expr) :
    (binary operator left right).mentions = left.mentions ++ right.mentions :=
  List.filterMap_append

/-- The name that an expression asks for by itself, apart from what stands inside it. -/
def ownName? : Expr → Option String
  | .name identifier => some identifier
  | .property key _ => some key
  | _ => none

/-- The names in an expression, from left to right. -/
def names (expr : Expr) : List String := expr.parts.filterMap ownName?

/-- The names in an expression are those that it mentions. -/
theorem names_eq_filterMap (expr : Expr) : expr.names = expr.mentions.filterMap Mention.name? := by
  have own : ownName? = fun part => part.ownMention?.bind Mention.name? := by
    funext part
    cases part <;> rfl
  rw [names, own, mentions, List.filterMap_filterMap]

/-- A name stands in an expression if it is mentioned. -/
theorem mem_names_iff {expr : Expr} {name : String} :
    name ∈ expr.names ↔ .name name ∈ expr.mentions := by
  rw [names_eq_filterMap, List.mem_filterMap]
  constructor
  · rintro ⟨mention, member, named⟩
    cases mention <;> cases named
    exact member
  · intro member
    exact ⟨.name name, member, rfl⟩

/-- The walk through an expression stops at the first name that is not allowed. -/
theorem unknownName?_eq_find? (schema : Schema) (expr : Expr) :
    expr.unknownName? schema = expr.names.find? fun name => !schema.allows name := by
  induction expr with
  | name identifier =>
    cases allowed : schema.allows identifier <;> simp [unknownName?, names, parts, ownName?, allowed]
  | property key access =>
    cases allowed : schema.allows key <;> simp [unknownName?, names, parts, ownName?, allowed]
  | unary operator operand inductionHypothesis => exact inductionHypothesis
  | binary operator left right leftHypothesis rightHypothesis =>
    have inside : (binary operator left right).names = left.names ++ right.names :=
      List.filterMap_append
    rw [unknownName?, leftHypothesis, rightHypothesis, inside, List.find?_append]
  | search subject pattern inductionHypothesis => exact inductionHypothesis
  | quantified relation quantifier body inductionHypothesis => exact inductionHypothesis
  | _ => rfl

end Expr

namespace Rule

variable [RegexEngine]

/-- The expressions of a rule: its guard, if there is one, and its assertion. -/
def expressions (rule : Rule) : List Expr := rule.guard.toList ++ [rule.ensure]

/-- Everything that a rule mentions, in its guard and in its assertion. -/
def mentions (rule : Rule) : List Mention := rule.expressions.flatMap Expr.mentions

/-- What the guard mentions the rule mentions. -/
theorem mem_mentions_of_guard {rule : Rule} {guard : Expr} (present : rule.guard = some guard)
    {mention : Mention} (member : mention ∈ guard.mentions) : mention ∈ rule.mentions :=
  List.mem_flatMap_of_mem (by simp [expressions, present]) member

/-- What the assertion mentions the rule mentions. -/
theorem mem_mentions_of_ensure {rule : Rule} {mention : Mention}
    (member : mention ∈ rule.ensure.mentions) : mention ∈ rule.mentions :=
  List.mem_flatMap_of_mem (by simp [expressions]) member

/-- The names in a rule, from left to right: those of its guard, if there is one, and then those of
its assertion. -/
def names (rule : Rule) : List String := rule.expressions.flatMap Expr.names

/-- A name stands in a rule if it is mentioned. -/
theorem mem_names_iff {rule : Rule} {name : String} :
    name ∈ rule.names ↔ .name name ∈ rule.mentions := by
  simp only [names, mentions, List.mem_flatMap, Expr.mem_names_iff]

/-- The walk through a rule stops at the first name that is not allowed. -/
theorem unknownName?_eq_find? (rule : Rule) (schema : Schema) :
    rule.unknownName? schema = rule.names.find? fun name => !schema.allows name := by
  cases present : rule.guard with
  | none => simp [unknownName?, names, expressions, present, Expr.unknownName?_eq_find?]
  | some guard =>
    simp [unknownName?, names, expressions, present, Expr.unknownName?_eq_find?, List.find?_append]

/-- A schema knows all of a rule if it allows every name in it. -/
theorem unknownName?_eq_none_iff {schema : Schema} {rule : Rule} :
    rule.unknownName? schema = none ↔ ∀ name ∈ rule.names, schema.allows name = true := by
  simp [unknownName?_eq_find?, List.find?_eq_none]

/-- A rule is valid if it has a selector and mentions only names that are allowed. -/
theorem validate_eq_ok_iff {schema : Schema} {rule : Rule} :
    rule.validate schema = .ok () ↔
      rule.selectors ≠ [] ∧ ∀ name, .name name ∈ rule.mentions → schema.allows name = true := by
  simp only [← mem_names_iff]
  rw [← unknownName?_eq_none_iff, validate]
  cases form : rule.selectors with
  | nil => simp
  | cons selector others =>
    cases rule.unknownName? schema <;> simp

end Rule

end WidgetAudit
