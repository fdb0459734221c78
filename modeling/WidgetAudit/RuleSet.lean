import WidgetAudit.Evaluation
import WidgetAudit.Schema
import WidgetAudit.Source

/-!
# Rule sets

A rule set is loaded from inputs: source texts with any number of rules each, and rules that
have been read already. The inputs are taken in order. A rule is admitted if no rule of its
name has been admitted before and it passes the check in force: against the schema if there
is one, and otherwise only that it has a selector. What is not admitted is kept with the
reason, and leaves no other trace.
-/

namespace WidgetAudit

variable [RegexEngine]

/-- Something to load: a source text or a rule. -/
inductive RuleInput
  | source (text : String)
  | rule (rule : Rule)

/-- Why something was not loaded. -/
inductive LoadFault
  | source (error : ParseError)
  | rule (fault : RuleFault)
deriving DecidableEq

/-- The message about a fault. -/
def LoadFault.message : LoadFault → String
  | .source error => error.display
  | .rule fault => fault.message

/-- Something that was not loaded: a rule, by its name, or a whole source. -/
structure Rejection where
  rule : Option String
  fault : LoadFault
deriving DecidableEq

/-- The message about something that was not loaded. -/
def Rejection.message (rejection : Rejection) : String :=
  match rejection.rule with
  | some name => "rule '" ++ name ++ "': " ++ rejection.fault.message
  | none => "source: " ++ rejection.fault.message

/-- One thing that inputs offer for loading: a rule, or a source that could not be read. -/
inductive Candidate
  | rule (rule : Rule)
  | unreadable (error : ParseError)
deriving DecidableEq

/-- What an input offers, in order. -/
def RuleInput.candidates : RuleInput → List Candidate
  | .rule given => [.rule given]
  | .source text =>
    match Rule.parseAll text with
    | .ok rules => rules.map .rule
    | .error error => [.unreadable error]

/-- The rules that have been loaded and the things that have not, each in order. -/
structure Loaded where
  rules : List Rule
  rejected : List Rejection

namespace Loaded

/-- Nothing loaded and nothing rejected. -/
def empty : Loaded := ⟨[], []⟩

/-- Check a rule as the schema asks for; without a schema it only needs a selector. -/
def check (schema : Option Schema) (rule : Rule) : Except RuleFault Unit :=
  match schema with
  | some schema => rule.validate schema
  | none => if rule.selectors.isEmpty then .error (.noSelectors rule.name) else .ok ()

/-- Check a rule among those that have been loaded. A repeated name is reported whatever
else is wrong. -/
def accept (loaded : Loaded) (schema : Option Schema) (rule : Rule) : Except RuleFault Unit :=
  if loaded.rules.any fun earlier => earlier.name == rule.name then
    .error (.repeatedName rule.name)
  else
    check schema rule

/-- Load one candidate, or reject it. -/
def add (schema : Option Schema) (loaded : Loaded) : Candidate → Loaded
  | .unreadable error =>
    { loaded with rejected := loaded.rejected ++ [⟨none, .source error⟩] }
  | .rule rule =>
    match loaded.accept schema rule with
    | .ok () => { loaded with rules := loaded.rules ++ [rule] }
    | .error fault =>
      { loaded with rejected := loaded.rejected ++ [⟨some rule.name, .rule fault⟩] }

/-- Load everything that inputs offer. -/
def ofInputs (schema : Option Schema) (inputs : List RuleInput) : Loaded :=
  (inputs.flatMap RuleInput.candidates).foldl (add schema) empty

end Loaded

/-- What a rule set is built from. -/
structure RuleSetPlan where
  inputs : List RuleInput
  schema : Option Schema := none
  interpreter : Interpreter := {}

/-- Loaded rules, what they are evaluated with, and what was not loaded. -/
structure RuleSet where
  rules : List Rule
  interpreter : Interpreter
  rejected : List Rejection

namespace RuleSetPlan

/-- Load every input and keep what was rejected. -/
def build (plan : RuleSetPlan) : RuleSet :=
  let loaded := Loaded.ofInputs plan.schema plan.inputs
  ⟨loaded.rules, plan.interpreter, loaded.rejected⟩

/-- Load every input, or report the first fault. -/
def build? (plan : RuleSetPlan) : Except LoadFault RuleSet :=
  let ruleSet := plan.build
  match ruleSet.rejected with
  | [] => .ok ruleSet
  | first :: _ => .error first.fault

end RuleSetPlan

namespace RuleSet

/-- The rules of one source, with the standard kinds and without a schema. -/
def ofSource (text : String) : Except LoadFault RuleSet :=
  RuleSetPlan.build? { inputs := [.source text] }

/-- The number of rules. -/
def size (ruleSet : RuleSet) : Nat := ruleSet.rules.length

/-- The rule with a name. -/
def find? (ruleSet : RuleSet) (name : String) : Option Rule :=
  ruleSet.rules.find? fun rule => rule.name == name

/-- The number of rules and of rejections, in words. -/
def text (ruleSet : RuleSet) : String :=
  "RuleSet(" ++ toString ruleSet.rules.length ++ " rules, " ++
    toString ruleSet.rejected.length ++ " rejected)"

end RuleSet

end WidgetAudit
