import WidgetAudit.Number.Binary64

/-!
# Shortest decimal text

The text of a floating-point number is the shortest decimal one that is read back
as the same number, written without an exponent. On a decimal grid only the two
neighbours of the number can be nearest, so it is enough to try those two on ever
finer grids; the first grid with a neighbour that rounds to the number wins. Of two
such neighbours the nearer is taken. In a tie the plain text takes the greater one; other
forms of text take the one with the even last digit.

Every finite number lies on some decimal grid itself, and that exact text is what
remains if no coarser grid is found.
-/

namespace WidgetAudit.Shortest

/-- A decimal number: `coefficient * 10 ^ exponent`. -/
structure Decimal where
  coefficient : Nat
  exponent : Int
deriving DecidableEq

/-- The rational number that a decimal one is. -/
def Decimal.toRat (decimal : Decimal) : Rat := decimal.coefficient * (10 : Rat) ^ decimal.exponent

/-- Which of two neighbours at the same distance is taken. -/
inductive Tie
  | greater
  | even
deriving DecidableEq

/-- Whether a number is taken for the greater one of its neighbours on a grid, when both round
to it. -/
def Tie.takesAbove (tie : Tie) (magnitude : Rat) (below above : Decimal) : Bool :=
  let up := above.toRat - magnitude
  let down := magnitude - below.toRat
  up < down || (up = down && (tie = .greater || below.coefficient % 2 = 1))

/-- The neighbour of a positive number on one decimal grid that rounds to `target`. -/
def onGrid? (tie : Tie) (target : Binary64) (magnitude : Rat) (exponent : Int) :
    Option Decimal :=
  let below : Decimal := ⟨(magnitude / 10 ^ exponent).floor.toNat, exponent⟩
  let above : Decimal := ⟨below.coefficient + 1, exponent⟩
  let roundsToTarget (decimal : Decimal) : Bool := Binary64.ofRat decimal.toRat == target
  if roundsToTarget below then
    if roundsToTarget above && tie.takesAbove magnitude below above then some above
    else some below
  else if roundsToTarget above then some above
  else none

/-- The first of so many grids, each ten times as fine as the one before, with a
neighbour that rounds to `target`. -/
def fromGrid? (tie : Tie) (target : Binary64) (magnitude : Rat) : Nat → Int → Option Decimal
  | 0, _ => none
  | grids + 1, exponent =>
    match onGrid? tie target magnitude exponent with
    | some decimal => some decimal
    | none => fromGrid? tie target magnitude grids (exponent - 1)

/-- The exact decimal form of `significand * 2 ^ exponent`. -/
def exact (significand : Nat) (exponent : Int) : Decimal :=
  if 0 ≤ exponent then ⟨significand * Nat.pow 2 exponent.toNat, 0⟩
  else ⟨significand * Nat.pow 5 (-exponent).toNat, exponent⟩

/-- The shortest decimal number that rounds to `significand * 2 ^ exponent`. The first
grid is coarser than twice the number, and seventeen digits always suffice. -/
def shortest (tie : Tie) (significand : Nat) (exponent : Int)
    (canonical : IsCanonical significand exponent) : Decimal :=
  let magnitude := Binary64.rational false significand exponent
  let target := Binary64.finite false significand exponent canonical
  let coarsest := ((Binary64.leadingExponent magnitude + 2) * 30103).fdiv 100000 + 1
  (fromGrid? tie target magnitude 24 coarsest).getD (exact significand exponent)

/-- The digits of a decimal number, with a point where it has places and without an
exponent. -/
def positional (decimal : Decimal) : List Char :=
  let digits := Nat.toDigits 10 decimal.coefficient
  if 0 ≤ decimal.exponent then
    digits ++ List.replicate decimal.exponent.toNat '0'
  else
    let places := (-decimal.exponent).toNat
    let padded := List.replicate (places + 1 - digits.length) '0' ++ digits
    padded.take (padded.length - places) ++ '.' :: padded.drop (padded.length - places)

/-- The text of a floating-point number. A whole number has no point. -/
def text : Binary64 → List Char
  | .nan => "NaN".toList
  | .infinite negative => (if negative then "-inf" else "inf").toList
  | .finite negative significand exponent canonical =>
    (if negative then ['-'] else []) ++
      if significand = 0 then ['0']
      else positional (shortest .greater significand exponent canonical)

end WidgetAudit.Shortest
