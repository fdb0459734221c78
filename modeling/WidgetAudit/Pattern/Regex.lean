import WidgetAudit.Pattern.CharSet
import WidgetAudit.Text.Property

/-!
# Regular expressions and their matches

A regular expression is found in a text if it matches some part of it. The module says
this through gaps: a text of n characters has n + 1 gaps, and an expression takes every
set of gaps to the set of those where its matches from the given gaps end. An expression
is found if the set of all gaps is taken to a set with a member.

The sets are kept as one truth value for each gap. An unbounded repetition adds gaps until
a round finds no new one, so a text has at most as many rounds as gaps, and no choice is
ever taken back.
-/

namespace WidgetAudit.Pattern

/-- A condition on a gap that uses up no character. Those about words know either all
characters or only those of ASCII. -/
inductive Assertion
  | textStart
  | textEnd
  | lineStart
  | lineEnd
  | returnLineStart
  | returnLineEnd
  | wordBoundary (ascii : Bool)
  | noWordBoundary (ascii : Bool)
  | wordStart (ascii : Bool)
  | wordEnd (ascii : Bool)
  | wordStartHalf (ascii : Bool)
  | wordEndHalf (ascii : Bool)
deriving DecidableEq

/-- A regular expression. A group whose match is kept is told apart from its content, since
keeping a match takes memory. -/
inductive Regex
  | empty
  | oneOf (set : CharSet)
  | asserting (assertion : Assertion)
  | sequence (first second : Regex)
  | either (first second : Regex)
  | repeated (body : Regex) (least : Nat) (most : Option Nat)
  | kept (body : Regex)

/-- Whether a character belongs to words; a missing one does not. -/
def isWordChar (ascii : Bool) : Option Char → Bool
  | none => false
  | some char =>
    if ascii then char.isAlphanum || char == '_' else Text.Property.word char.toNat

/-- Whether an assertion holds in the gap between two characters, of which one or both may
be missing at the ends of the text. -/
def Assertion.holds (before after : Option Char) : Assertion → Bool
  | .textStart => before.isNone
  | .textEnd => after.isNone
  | .lineStart => before.isNone || before == some '\n'
  | .lineEnd => after.isNone || after == some '\n'
  | .returnLineStart =>
    before.isNone || before == some '\n' || (before == some '\r' && after != some '\n')
  | .returnLineEnd =>
    after.isNone || after == some '\r' || (after == some '\n' && before != some '\r')
  | .wordBoundary ascii => isWordChar ascii before != isWordChar ascii after
  | .noWordBoundary ascii => isWordChar ascii before == isWordChar ascii after
  | .wordStart ascii => !isWordChar ascii before && isWordChar ascii after
  | .wordEnd ascii => isWordChar ascii before && !isWordChar ascii after
  | .wordStartHalf ascii => !isWordChar ascii before
  | .wordEndHalf ascii => !isWordChar ascii after

/-- A set of gaps of a text, as one truth value for each. -/
abbrev Gaps := List Bool

namespace Gaps

/-- Apply a step so many times. A step that changes nothing is not repeated. -/
def times (step : Gaps → Gaps) : Nat → Gaps → Gaps
  | 0, gaps => gaps
  | rounds + 1, gaps =>
    let next := step gaps
    if next = gaps then gaps else times step rounds next

/-- Everything that a step reaches from some of the gaps reached before, in so many rounds
at most; rounds that find nothing new are left out. -/
def closure (step : Gaps → Gaps) : Nat → Gaps → Gaps → Gaps
  | 0, reached, _ => reached
  | rounds + 1, reached, newest =>
    let found := List.zipWith (fun isFound isKnown => isFound && !isKnown) (step newest) reached
    if found.any id then closure step rounds (List.zipWith or reached found) found else reached

end Gaps

namespace Regex

/-- The gaps of a text, each as the characters on its two sides. -/
def sides (before : Option Char) : List Char → List (Option Char × Option Char)
  | [] => [(before, none)]
  | char :: rest => (before, some char) :: sides (some char) rest

/-- The gaps where matches end that begin in given gaps. -/
def ends (text : List Char) : Regex → Gaps → Gaps
  | .empty, gaps => gaps
  | .oneOf set, gaps =>
    false :: List.zipWith (fun isHere char => isHere && set.contains char.toNat) gaps text
  | .asserting assertion, gaps =>
    List.zipWith (fun isHere side => isHere && assertion.holds side.1 side.2) gaps
      (sides none text)
  | .sequence first second, gaps => ends text second (ends text first gaps)
  | .either first second, gaps => List.zipWith or (ends text first gaps) (ends text second gaps)
  | .repeated body least most, gaps =>
    let fewest := Gaps.times (ends text body) least gaps
    let rounds := match most with
      | some most => most - least
      | none => text.length + 1
    Gaps.closure (ends text body) rounds fewest fewest
  | .kept body, gaps => ends text body gaps

/-- Whether an expression matches some part of a text. -/
def isFoundIn (regex : Regex) (text : List Char) : Bool :=
  (ends text regex (List.replicate (text.length + 1) true)).any id

/-- Expressions one after the other. -/
def sequenceOf : List Regex → Regex
  | [] => .empty
  | [regex] => regex
  | regex :: others => .sequence regex (sequenceOf others)

end Regex

end WidgetAudit.Pattern
