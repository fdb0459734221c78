import WidgetAudit.Pattern.Regex

/-!
# The size of patterns

Counted repetitions let a short pattern stand for a very long one. A pattern is refused if
an automaton over the bytes of UTF-8 would need too much memory for it. The size here is an
estimate of that memory: so many bytes for each state, a few states for each range of
characters, and two for each group whose match is kept. What matches nothing but the empty
text needs no second copy.
-/

namespace WidgetAudit.Pattern

/-- The memory that an automaton may take, in bytes. -/
def sizeLimit : Nat := 10485760

/-- The memory that one state takes, in bytes. -/
def stateSize : Nat := 32

/-- The number of states for the characters of a set. -/
def CharSet.states : CharSet → Nat
  | .range _ last => if last < 0x80 then 1 else if last < 0x800 then 2 else 4
  | .having _ ranges => 2 * ranges
  | .union first second | .intersection first second | .difference first second
  | .symmetricDifference first second => first.states + second.states
  | .complement set => set.states + 8
  | .ignoringCase set | .ignoringAsciiCase set => 2 * set.states

/-- Whether a regular expression matches nothing but the empty text. -/
def Regex.isEmptyOnly : Regex → Bool
  | .empty | .asserting _ => true
  | .oneOf _ => false
  | .sequence first second | .either first second => first.isEmptyOnly && second.isEmptyOnly
  | .repeated body _ most => body.isEmptyOnly || most == some 0
  | .kept body => body.isEmptyOnly

/-- The number of states for a regular expression. -/
def Regex.states : Regex → Nat
  | .empty => 1
  | .oneOf set => set.states
  | .asserting _ => 1
  | .sequence first second => first.states + second.states
  | .either first second => first.states + second.states + 1
  | .repeated body least most =>
    if body.isEmptyOnly then body.states + 2
    else match most with
      | some most => body.states * most + (most - least) + 1
      | none => body.states * max least 1 + 1
  | .kept body => body.states + 2

/-- Whether an automaton for a regular expression stays within the limit. -/
def Regex.fits (regex : Regex) : Bool := regex.states * stateSize ≤ sizeLimit

end WidgetAudit.Pattern
