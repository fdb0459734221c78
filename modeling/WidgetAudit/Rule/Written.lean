import WidgetAudit.Expr.Written
import WidgetAudit.Rule

/-!
# The written form of rules

A rule is written over several lines: its head, its details in the order of their keys,
its guard, its assertion and its report. A key that is an identifier needs no quotes.
-/

namespace WidgetAudit

/-- A selector as a rule writes it. -/
def Selector.written : Selector → List Char
  | .any => "any".toList
  | .role name => "role(".toList ++ name.toList ++ [')']
  | .type name => "type(".toList ++ name.toList ++ [')']
  | .kind name => "kind(".toList ++ name.toList ++ [')']

/-- The text of a selector. -/
def Selector.text (selector : Selector) : String := String.ofList selector.written

namespace Rule

/-- Whether a key of the details can stand without quotes. -/
def isBareKey : List Char → Bool
  | [] => false
  | first :: rest =>
    (first.isAlpha || first == '_') && rest.all fun char => char.isAlphanum || char == '_'

/-- A key of the details as a rule writes it. -/
def writtenKey (key : List Char) : List Char :=
  if isBareKey key then key else Quoted.written key

/-- One line of the details. -/
def writtenDetail (detail : String × String) : List Char :=
  "        ".toList ++ writtenKey detail.1.toList ++ ": ".toList ++
    Quoted.written detail.2.toList ++ ['\n']

/-- The block of the details, which is left out if there are none. -/
def writtenDetails (details : NameTable String) : List Char :=
  if details.isEmpty then []
  else "    meta \x7b\n".toList ++ details.entries.flatMap writtenDetail ++ "    \x7d\n".toList

variable [RegexEngine]

/-- The line of the guard, which is left out if there is none. -/
def writtenGuard : Option Expr → List Char
  | none => []
  | some guard => "    when: ".toList ++ guard.written ++ ['\n']

/-- A rule as a source writes it. -/
def written (rule : Rule) : List Char :=
  "rule ".toList ++ Quoted.written rule.name.toList ++ " on ".toList ++
    " || ".toList.intercalate (rule.selectors.map Selector.written) ++ " \x7b\n".toList ++
    writtenDetails rule.details ++ writtenGuard rule.guard ++
    "    ensure: ".toList ++ rule.ensure.written ++ ['\n'] ++
    "    report: ".toList ++ Quoted.written rule.report.toList ++ "\n\x7d".toList

/-- The text of a rule. -/
def text (rule : Rule) : String := String.ofList rule.written

end Rule

end WidgetAudit
