import WidgetAudit.Number.Binary64

/-!
# Numerals

A numeral is the decimal text of a number. Whole numbers of 64 bits are read from
a sign and digits, and the reading fails on a number that does not fit.
Floating-point numbers are read from a wider form with a point, an exponent, and
the words for the infinities and for the value that is not a number; reading one
never fails for its size, it rounds.

Signs and digits are those of ASCII. Blanks are no part of a numeral.
-/

namespace WidgetAudit

/-- The signed 64-bit number with a given value, if there is one. -/
def int64? (value : Int) : Option Int64 :=
  if Int64.minValue.toInt ≤ value ∧ value ≤ Int64.maxValue.toInt then some (Int64.ofInt value)
  else none

/-- A number that fits is found again as its value. -/
theorem toInt_of_int64? {value : Int} {number : Int64} (found : int64? value = some number) :
    number.toInt = value := by
  unfold int64? at found
  split at found
  · rename_i fits
    rw [← Option.some.inj found]
    exact Int64.toInt_ofInt_of_le fits.1 (Int.lt_add_one_of_le fits.2)
  · cases found

/-- A number is found from its value. -/
theorem int64?_toInt (number : Int64) : int64? number.toInt = some number := by
  have fits : Int64.minValue.toInt ≤ number.toInt ∧ number.toInt ≤ Int64.maxValue.toInt :=
    ⟨Int64.le_toInt number, Int.le_of_lt_add_one (Int64.toInt_lt number)⟩
  rw [int64?, if_pos fits, Int64.ofInt_toInt]

/-- Only a number outside the range of 64 bits is not found. -/
theorem int64?_eq_none_iff {value : Int} :
    int64? value = none ↔ value < Int64.minValue.toInt ∨ Int64.maxValue.toInt < value := by
  rw [int64?]
  split <;> rename_i fits
  · simp only [reduceCtorEq, false_iff]
    omega
  · simp only [true_iff]
    omega

/-- Only the opposite of the least whole number needs more than 64 bits. -/
theorem toInt_neg_of_ne_least {number : Int64} (noLeast : number ≠ Int64.minValue) :
    (-number).toInt = -number.toInt := by
  have distinct : number.toInt ≠ Int64.minValue.toInt :=
    fun same => noLeast (Int64.toInt_inj.mp same)
  have least : Int64.minValue.toInt = -2 ^ 63 := by decide
  have low := Int64.le_toInt number
  have high := Int64.toInt_lt number
  rw [Int64.toInt_neg]
  exact Int.bmod_eq_of_le (by omega) (by omega)

namespace Numeral

/-- The number that a row of digits writes. -/
def natural (digits : List Char) : Nat :=
  digits.foldl (fun value digit => 10 * value + (digit.toNat - '0'.toNat)) 0

/-- The number that a text of digits writes; at least one digit is needed. -/
def natural? (text : List Char) : Option Nat :=
  if text ≠ [] ∧ text.all Char.isDigit then some (natural text) else none

/-- A sign in front, true for a minus, and what follows it. -/
def signed : List Char → Bool × List Char
  | '-' :: rest => (true, rest)
  | '+' :: rest => (false, rest)
  | text => (false, text)

/-- The whole number that a text of an optional sign and digits writes. -/
def integer? (text : List Char) : Option Int :=
  let (negative, digits) := signed text
  (natural? digits).map fun value => if negative then -(value : Int) else value

/-- The signed 64-bit number that a text writes. -/
def int64? (text : List Char) : Option Int64 := (integer? text).bind WidgetAudit.int64?

/-- The number nearest to `coefficient * 10 ^ exponent`. An exponent far outside the
range of the format decides the result by itself: the number is then beyond the
largest one, or below half of the smallest. -/
def scaled (negative : Bool) (coefficient : Nat) (exponent : Int) : Binary64 :=
  if coefficient = 0 then
    .zero negative
  else if 400 < exponent then
    .infinite negative
  else if exponent < -400 - (coefficient.log2 + 1) then
    .zero negative
  else
    .round negative (coefficient * (10 : Rat) ^ exponent)

/-- An exponent mark and a whole number, or nothing. -/
def exponent? : List Char → Option Int
  | [] => some 0
  | mark :: rest => if mark = 'e' ∨ mark = 'E' then integer? rest else none

/-- The number that digits with an optional point and exponent write. At least one
digit has to stand before or behind the point. -/
def decimal? (negative : Bool) (text : List Char) : Option Binary64 :=
  let whole := text.takeWhile Char.isDigit
  let behind := text.dropWhile Char.isDigit
  let (fraction, tail) :=
    match behind with
    | '.' :: rest => (rest.takeWhile Char.isDigit, rest.dropWhile Char.isDigit)
    | _ => ([], behind)
  if whole = [] ∧ fraction = [] then
    none
  else
    (exponent? tail).map fun exponent =>
      scaled negative (natural (whole ++ fraction)) (exponent - fraction.length)

/-- The floating-point number that a text writes. The words are read in any mixture
of small and capital letters. -/
def binary64? (text : List Char) : Option Binary64 :=
  let (negative, rest) := signed text
  let word := rest.map Char.toLower
  if word = "inf".toList ∨ word = "infinity".toList then some (.infinite negative)
  else if word = "nan".toList then some .nan
  else decimal? negative rest

end Numeral

end WidgetAudit
