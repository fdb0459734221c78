import WidgetAudit.Grammar.Expression
import WidgetAudit.Rule

/-!
# The grammar of rules

A rule is the word `rule`, its quoted name, the word `on` with selectors joined by
`||`, and a body in braces: details, a guard, the assertion and the report, in this
order, of which the first two may be missing. After the word `rule` nothing else can
be meant, so every later refusal is final.
-/

namespace WidgetAudit.Grammar

open Reader

/-- A name between parentheses. -/
def selectorArgument : Reader String := do
  sign '('
  layout
  let name ← identifier
  sign ')'
  return name

/-- One selector. -/
def selector : Reader Selector := do
  layout
  remarking (.wanted "selector") <|
    (do keyword "any"; return .any) <|>
    (do keyword "role"; let name ← commit selectorArgument; return .role name) <|>
    (do keyword "type"; let name ← commit selectorArgument; return .type name) <|>
    (do keyword "kind"; let name ← commit selectorArgument; return .kind name)

/-- Another selector, which has to follow `||`. -/
def furtherSelector : Reader Selector := do
  layout
  Reader.text "||"
  commit selector

/-- A further selector reads at least the sign in front of it. -/
theorem consumes_furtherSelector : furtherSelector.Consumes :=
  consumes_bind_next layout fun _ => (consumes_text (by decide)).bind _

/-- One selector or more, joined by `||`. -/
def selectors : Reader (List Selector) := do
  let first ← commit selector
  let others ← many furtherSelector consumes_furtherSelector
  return first :: others

/-- A key, which is a name or a quoted text, and a quoted value; a comma may follow. -/
def detail : Reader (String × String) := do
  layout
  let key ← identifier <|> quoted
  let value ← remarking (.wanted "quoted meta value") <| commit do
    sign ':'
    layout
    quoted
  let _ ← optional (sign ',')
  return (key, value)

/-- A detail reads at least its key. -/
theorem consumes_detail : detail.Consumes :=
  consumes_bind_next layout fun _ => (consumes_identifier.orElse consumes_quoted).bind _

/-- The details of a rule. Of equal keys the last one counts. -/
def details : Reader (NameTable String) := do
  layout
  keyword "meta"
  commit do
    sign '{'
    let entries ← many detail consumes_detail
    sign '}'
    return .ofList entries

variable [RegexEngine]

/-- A word, a colon and an expression. -/
def clause (depth : Nat) (word : String) : Reader Expr := do
  layout
  keyword word
  commit do
    sign ':'
    expression depth

/-- One rule. Its expressions have so many parentheses open at once at most. -/
def rule (depth : Nat) : Reader Rule := do
  layout
  keyword "rule"
  let name ← remarking (.wanted "quoted rule name") <| commit do
    layout
    quoted
  commit do
    layout
    keyword "on"
  let selectors ← selectors
  remarking (.wantedText "\x7b") (commit (sign '{'))
  let details ← optional details
  let guard ← optional (clause depth "when")
  let ensure ← remarking (.wanted "ensure clause") (commit (clause depth "ensure"))
  let report ← remarking (.wanted "report clause") <| commit do
    layout
    keyword "report"
    sign ':'
    layout
    quoted
  remarking (.wantedText "\x7d") (commit (sign '}'))
  return { name, selectors, details := details.getD .empty, guard, ensure, report }

/-- A rule reads at least its first word. -/
theorem consumes_rule (depth : Nat) : (rule depth).Consumes :=
  consumes_bind_next layout fun _ => (consumes_keyword "rule").bind _

/-- A text of exactly one rule. -/
def oneRule (depth : Nat) : Reader Rule := do
  let rule ← rule depth
  layout
  finish
  return rule

/-- A text of any number of rules. -/
def allRules (depth : Nat) : Reader (List Rule) := do
  let rules ← many (rule depth) (consumes_rule depth)
  layout
  finish
  return rules

end WidgetAudit.Grammar
