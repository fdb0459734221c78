import WidgetAudit.Text.Property

/-!
# Small letters

A text in small letters. Two capitals do not simply turn into another letter: a dotted
capital I keeps its dot as a mark of its own, and a capital sigma has another small form
at the end of a word, that is, behind a letter and before none. Apostrophes, marks and
the like count neither as letters nor as ends.
-/

namespace WidgetAudit.Text

/-- Whether the first character that is not passed over is a letter with a case. -/
def meetsLetter (text : List Char) : Bool :=
  match text.dropWhile fun char => Property.caseIgnorable char.toNat with
  | [] => false
  | char :: _ => Property.cased char.toNat

/-- The small form of a character between what stands before it, nearest first, and what
stands behind it. -/
def lowercaseBetween (before after : List Char) (char : Char) : List Char :=
  if char = 'Σ' then
    [if meetsLetter before && !meetsLetter after then 'ς' else 'σ']
  else if char = 'İ' then
    ['i', '\u0307']
  else
    [Char.ofNat (lower char.toNat)]

/-- The small form of what stands behind some characters, which are given nearest first. -/
def lowercaseBehind (before : List Char) : List Char → List Char
  | [] => []
  | char :: after => lowercaseBetween before after char ++ lowercaseBehind (char :: before) after

/-- A text in small letters. -/
def lowercase (text : List Char) : List Char := lowercaseBehind [] text

end WidgetAudit.Text
