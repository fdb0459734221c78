import WidgetAudit.Grammar.RuleText
import WidgetAudit.Source.Nesting
import WidgetAudit.Source.Position

/-!
# Rule sources

Rules are read from source texts: `Rule.parse` from a text of one rule, `Rule.parseAll`
from a text of any number of them. A text is refused as a whole, with the place where
the reading stopped and a message about what was expected there.
-/

namespace WidgetAudit

/-- Why a source was refused, and where. -/
structure ParseError where
  message : String
  position : Source.Position
deriving DecidableEq

namespace ParseError

/-- The error with the line and column in front. -/
def display (error : ParseError) : String :=
  s!"parse error at line {error.position.line}, column {error.position.column}: " ++ error.message

end ParseError

namespace Source

/-- The number of parentheses that may be open at once. -/
def nestingLimit : Nat := 128

/-- The message about a text that nests too deep. -/
def nestingMessage : String := s!"expressions nest deeper than {nestingLimit} levels"

/-- What a remark says would have been accepted. -/
def expectation? : Grammar.Remark → Option String
  | .reading _ => none
  | .wantedText text => some s!"\x60{text}\x60"
  | .wanted description => some description

/-- What a remark says was being read. -/
def construct? : Grammar.Remark → Option String
  | .reading construct => some construct
  | _ => none

/-- The message about a refusal: the innermost construct that was being read, everything
that would have been accepted, and the fault of a pattern, each on a line of its own. -/
def refusalMessage (refusal : Grammar.Refusal) : String :=
  let construct := (refusal.remarks.findSome? construct?).map ("invalid " ++ ·)
  let expected := refusal.remarks.filterMap expectation?
  let expectation :=
    if expected.isEmpty then none else some ("expected " ++ ", ".intercalate expected)
  let fault := refusal.fault.map Pattern.Fault.message
  let lines := [construct, expectation, fault].filterMap id
  if lines.isEmpty then "unexpected input" else "\n".intercalate lines

/-- The error about what is left of a source. -/
def errorAt (source rest : List Char) (message : String) : ParseError :=
  ⟨message, .ofOffset source (byteLength source - byteLength rest)⟩

/-- An error stands behind the characters in front of what is left. -/
theorem errorAt_append (before rest : List Char) (message : String) :
    errorAt (before ++ rest) rest message = ⟨message, .behind before⟩ := by
  rw [errorAt, byteLength_append, Nat.add_sub_cancel, Position.ofOffset_byteLength]

/-- Read a whole source, once it is known not to nest too deep. -/
def read {α : Type} (reader : Nat → Grammar.Reader α) (source : String) :
    Except ParseError α :=
  let text := source.toList
  match overflow? nestingLimit 0 text with
  | some rest => .error (errorAt text rest nestingMessage)
  | none =>
    match (reader nestingLimit).read text with
    | .ok (value, _) => .ok value
    | .error refusal =>
      match refusal.severity with
      | .overNested => .error (errorAt text refusal.rest nestingMessage)
      | _ => .error (errorAt text refusal.rest (refusalMessage refusal))

end Source

variable [RegexEngine]

/-- The one rule of a source. -/
def Rule.parse (source : String) : Except ParseError Rule := Source.read Grammar.oneRule source

/-- The rules of a source, in their order. -/
def Rule.parseAll (source : String) : Except ParseError (List Rule) :=
  Source.read Grammar.allRules source

end WidgetAudit
