/-!
# Binary floating-point numbers of 64 bits

A number of this format is a whole multiple of a power of two, an infinity, or
the value that is not a number. A finite number is kept as its sign, significand
and exponent, in the one form that the format allows for it, so two equal values
of the type are the same value of the format; the two zeros stay apart.

Each operation is stated in two steps: the exact rational result, then one
rounding to the nearest number, a tie going to the even significand. `ofRat` is
that rounding. Nothing in the module depends on the arithmetic of the machine.
-/

namespace WidgetAudit

/-- The least number that needs 53 bits. -/
def hiddenBit : Nat := 0x10000000000000

/-- The significands and exponents of the finite numbers: 53 bits, and the lowest
exponent for each significand that needs fewer. -/
def IsCanonical (significand : Nat) (exponent : Int) : Prop :=
  significand < 2 * hiddenBit ∧ -1074 ≤ exponent ∧ exponent ≤ 971 ∧
    (significand < hiddenBit → exponent = -1074)

instance (significand : Nat) (exponent : Int) : Decidable (IsCanonical significand exponent) :=
  inferInstanceAs (Decidable (_ ∧ _ ∧ _ ∧ (_ → _)))

/-- A floating-point number. The finite one stands for
`significand * 2 ^ exponent`, with a minus sign if it is negative. -/
inductive Binary64
  | nan
  | infinite (negative : Bool)
  | finite (negative : Bool) (significand : Nat) (exponent : Int)
      (canonical : IsCanonical significand exponent)
deriving DecidableEq

namespace Binary64

/-- The zero of the given sign. -/
def zero (negative : Bool) : Binary64 := .finite negative 0 (-1074) (by decide)

instance : Inhabited Binary64 := ⟨zero false⟩

/-- Whether the number is neither an infinity nor the value that is not a number. -/
def isFinite : Binary64 → Bool
  | .finite .. => true
  | _ => false

/-- Whether the number is a zero of either sign. -/
def isZero : Binary64 → Bool
  | .finite _ significand _ _ => significand == 0
  | _ => false

/-- The rational number that a sign, a significand and an exponent stand for. -/
def rational (negative : Bool) (significand : Nat) (exponent : Int) : Rat :=
  (if negative then -1 else 1) * significand * 2 ^ exponent

/-- The rational number that a finite number stands for. -/
def toRat? : Binary64 → Option Rat
  | .finite negative significand exponent _ => some (rational negative significand exponent)
  | _ => none

/-! ### Rounding -/

/-- The exponent of the largest power of two that a positive number reaches. The
quotient of the two leading bits is that power or the next one above it. -/
def leadingExponent (magnitude : Rat) : Int :=
  let guess : Int := magnitude.num.natAbs.log2 - magnitude.den.log2
  if (2 : Rat) ^ guess ≤ magnitude then guess else guess - 1

/-- The nearest whole number to one that is not negative; a tie goes to the even
neighbour. -/
def nearestEven (magnitude : Rat) : Nat :=
  let below := magnitude.floor.toNat
  let part := magnitude - below
  if part < 1 / 2 ∨ (part = 1 / 2 ∧ below % 2 = 0) then below else below + 1

/-- The number with the given significand and exponent. A pair that no finite
number has lies beyond the largest one, and gives the infinity. -/
def ofParts (negative : Bool) (significand : Nat) (exponent : Int) : Binary64 :=
  if canonical : IsCanonical significand exponent then
    .finite negative significand exponent canonical
  else
    .infinite negative

/-- Round a magnitude: take the exponent that leaves 53 bits, but none below the
lowest, and the nearest significand. A significand that fills up to 54 bits is the
least one of the next exponent. -/
def round (negative : Bool) (magnitude : Rat) : Binary64 :=
  if magnitude ≤ 0 then
    zero negative
  else
    let exponent := max (leadingExponent magnitude - 52) (-1074)
    let significand := nearestEven (magnitude / 2 ^ exponent)
    if significand = 2 * hiddenBit then
      ofParts negative hiddenBit (exponent + 1)
    else
      ofParts negative significand exponent

/-- The nearest number to a rational one; zero has no sign. -/
def ofRat (value : Rat) : Binary64 := round (decide (value < 0)) value.abs

/-- The nearest number to a whole one. -/
def ofInt (value : Int) : Binary64 := ofRat value

/-! ### Arithmetic -/

/-- The same number with the other sign. -/
def neg : Binary64 → Binary64
  | .nan => .nan
  | .infinite negative => .infinite !negative
  | .finite negative significand exponent canonical =>
    .finite (!negative) significand exponent canonical

/-- The rounded sum. A sum of zero is positive unless both terms are negative. -/
def add : Binary64 → Binary64 → Binary64
  | .nan, _ | _, .nan => .nan
  | .infinite first, .infinite second => if first = second then .infinite first else .nan
  | .infinite first, .finite .. => .infinite first
  | .finite .., .infinite second => .infinite second
  | .finite negative significand exponent _, .finite negative' significand' exponent' _ =>
    let sum := rational negative significand exponent + rational negative' significand' exponent'
    if sum = 0 then zero (negative && negative') else ofRat sum

/-- The rounded difference. -/
def sub (first second : Binary64) : Binary64 := first.add second.neg

/-- The rounded product, negative if exactly one factor is. -/
def mul : Binary64 → Binary64 → Binary64
  | .nan, _ | _, .nan => .nan
  | .infinite first, .infinite second => .infinite (first != second)
  | .infinite first, .finite second significand _ _ =>
    if significand = 0 then .nan else .infinite (first != second)
  | .finite first significand _ _, .infinite second =>
    if significand = 0 then .nan else .infinite (first != second)
  | .finite first significand exponent _, .finite second significand' exponent' _ =>
    round (first != second)
      (rational false significand exponent * rational false significand' exponent')

/-- The rounded quotient, negative if exactly one term is. -/
def div : Binary64 → Binary64 → Binary64
  | .nan, _ | _, .nan => .nan
  | .infinite _, .infinite _ => .nan
  | .infinite first, .finite second .. => .infinite (first != second)
  | .finite first .., .infinite second => zero (first != second)
  | .finite first significand exponent _, .finite second significand' exponent' _ =>
    if significand' = 0 then
      if significand = 0 then .nan else .infinite (first != second)
    else
      round (first != second)
        (rational false significand exponent / rational false significand' exponent')

/-- How two numbers compare as numbers. The value that is not a number compares with
nothing; the two zeros are equal. -/
def order? : Binary64 → Binary64 → Option Ordering
  | .nan, _ | _, .nan => none
  | .infinite first, .infinite second => some (compare second first)
  | .infinite negative, .finite .. => some (if negative then .lt else .gt)
  | .finite .., .infinite negative => some (if negative then .gt else .lt)
  | .finite negative significand exponent _, .finite negative' significand' exponent' _ =>
    let first := rational negative significand exponent
    let second := rational negative' significand' exponent'
    some (if first < second then .lt else if first = second then .eq else .gt)

/-- Whether two numbers are equal as numbers. -/
def equals (first second : Binary64) : Bool := first.order? second == some .eq

/-- The number without the digits behind its point. What is left of a number between minus
one and one is the zero of its sign. -/
def truncated : Binary64 → Binary64
  | .finite negative significand exponent _ =>
    round negative (rational false significand exponent).floor
  | number => number

/-- The 64-bit whole number that a number is turned into: the digits behind the point are
cut off, and a number beyond an end of the range becomes that end. What is not a number
becomes zero. -/
def toInt64 : Binary64 → Int64
  | .nan => 0
  | .infinite negative => if negative then Int64.minValue else Int64.maxValue
  | .finite negative significand exponent _ =>
    let magnitude := (rational false significand exponent).floor
    let whole := if negative then -magnitude else magnitude
    if whole < Int64.minValue.toInt then Int64.minValue
    else if Int64.maxValue.toInt < whole then Int64.maxValue
    else .ofInt whole

end Binary64

end WidgetAudit
