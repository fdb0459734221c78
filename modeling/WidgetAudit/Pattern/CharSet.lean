import WidgetAudit.Text.CaseMap

/-!
# Sets of characters

What one place of a pattern may match. A set is built from ranges and from properties of
characters by the operations on sets, and by taking in the other cases of its letters.
-/

namespace WidgetAudit.Pattern

/-- A set of code points. A property comes with the number of ranges that its table has,
which tells how large an automaton for it is. -/
inductive CharSet
  | range (first last : Nat)
  | having (property : Nat → Bool) (ranges : Nat)
  | union (first second : CharSet)
  | intersection (first second : CharSet)
  | difference (first second : CharSet)
  | symmetricDifference (first second : CharSet)
  | complement (set : CharSet)
  | ignoringCase (set : CharSet)
  | ignoringAsciiCase (set : CharSet)

namespace CharSet

/-- The set without members. -/
def nothing : CharSet := .range 1 0

/-- The set of every character. -/
def everything : CharSet := .range 0 0x10FFFF

/-- The set of one character. -/
def single (char : Char) : CharSet := .range char.toNat char.toNat

/-- The forms of a code point that differ in the case of an ASCII letter at most. -/
def asciiVariants (code : Nat) : List Nat :=
  if 0x41 ≤ code ∧ code ≤ 0x5A then [code, code + 0x20]
  else if 0x61 ≤ code ∧ code ≤ 0x7A then [code, code - 0x20]
  else [code]

/-- Whether a code point is a member. -/
def contains : CharSet → Nat → Bool
  | .range first last, code => first ≤ code && code ≤ last
  | .having property _, code => property code
  | .union first second, code => first.contains code || second.contains code
  | .intersection first second, code => first.contains code && second.contains code
  | .difference first second, code => first.contains code && !second.contains code
  | .symmetricDifference first second, code => first.contains code != second.contains code
  | .complement set, code => !set.contains code
  | .ignoringCase set, code => (Text.caseVariants code).any set.contains
  | .ignoringAsciiCase set, code => (asciiVariants code).any set.contains

/-- The union of sets. -/
def unionOf (sets : List CharSet) : CharSet := sets.foldr .union nothing

/-- The set of given ranges of characters. -/
def ofRanges (ranges : List (Char × Char)) : CharSet :=
  unionOf (ranges.map fun range => .range range.1.toNat range.2.toNat)

end CharSet

end WidgetAudit.Pattern
