import WidgetAudit.Value

/-!
# Numbers in JSON

A number in JSON without a fraction and an exponent is a whole number if it fits into 64 bits;
every other number is a floating-point one. A floating-point number is read fast rather than
exactly: as many digits as fit into 64 bits are taken as a whole number, the others are
dropped, and the result is multiplied or divided by a power of ten, with one rounding for each
of these steps. A number beyond the largest one is refused.

Written numbers have the fewest digits, and an exponent if the point would be far away from
them.
-/

namespace WidgetAudit.Json

/-! ### Reading -/

/-- Append digits to a whole number as long as it fits into 64 bits, and count them. -/
def appendDigits (number count : Nat) : List Char → Nat × Nat × List Char
  | [] => (number, count, [])
  | char :: rest =>
    let next := 10 * number + (char.toNat - '0'.toNat)
    if char.isDigit ∧ next < UInt64.size then appendDigits next (count + 1) rest
    else (number, count, char :: rest)

/-- The power of ten with an exponent, rounded. -/
def tenTo (exponent : Nat) : Binary64 := .ofInt (Nat.pow 10 exponent)

/-- Multiply by a power of ten, in steps of at most 308 places downwards and in a single one
upwards; an infinite result is refused. -/
def shifted? (number : Binary64) (exponent : Int) : Option Binary64 :=
  if 0 ≤ exponent then
    if exponent ≤ 308 then
      let product := number.mul (tenTo exponent.toNat)
      if product.isFinite then some product else none
    else if number.isZero then some number
    else none
  else if -308 ≤ exponent then
    some (number.div (tenTo (-exponent).toNat))
  else if number.isZero then
    some number
  else
    shifted? (number.div (tenTo 308)) (exponent + 308)
termination_by (-exponent).toNat

/-- The floating-point number of a sign, a whole number and an exponent of ten. -/
def float? (negative : Bool) (number : Nat) (exponent : Int) : Option Value :=
  (shifted? (.ofInt number) exponent).map fun magnitude =>
    .float (if negative then magnitude.neg else magnitude)

/-- The greatest exponent that is read. -/
def exponentLimit : Nat := 0x80000000

/-- Read the exponent behind its mark, and give the number. An exponent that is too long to be
read makes a number too large, or zero. -/
def behindExponent? (negative : Bool) (number : Nat) (places : Int) (text : List Char) :
    Option (Value × List Char) :=
  let (downwards, digits) := Numeral.signed text
  let exponent := Numeral.natural (digits.takeWhile Char.isDigit)
  let rest := digits.dropWhile Char.isDigit
  if (digits.takeWhile Char.isDigit).isEmpty then
    none
  else if exponentLimit ≤ exponent then
    if number ≠ 0 ∧ !downwards then none else some (.float (.zero negative), rest)
  else
    (float? negative number (if downwards then places - exponent else places + exponent)).map
      fun value => (value, rest)

/-- Go on behind the digits of a floating-point number. -/
def behindDigits? (negative : Bool) (number : Nat) (places : Int) (text : List Char) :
    Option (Value × List Char) :=
  match text with
  | 'e' :: rest | 'E' :: rest => behindExponent? negative number places rest
  | _ => (float? negative number places).map fun value => (value, text)

/-- Go on behind the point; at least one digit has to follow it. -/
def behindPoint? (negative : Bool) (number dropped : Nat) (text : List Char) :
    Option (Value × List Char) :=
  let (number, count, rest) := appendDigits number 0 text
  if text.head?.any Char.isDigit then
    behindDigits? negative number (dropped - count) (rest.dropWhile Char.isDigit)
  else
    none

/-- A whole number if it fits into 64 bits with its sign; the negative zero is none. -/
def wholeValue (negative : Bool) (number : Nat) : Value :=
  let signed : Int := if negative then -(number : Int) else number
  match int64? signed with
  | some whole => if negative ∧ number = 0 then .float (.zero true) else .int whole
  | none => .float (.ofInt signed)

/-- Read a number. A zero in front of other digits is refused. -/
def number? (text : List Char) : Option (Value × List Char) :=
  let (negative, digits) := match text with
    | '-' :: rest => (true, rest)
    | _ => (false, text)
  let (number, count, rest) := appendDigits 0 0 digits
  let dropped := (rest.takeWhile Char.isDigit).length
  let behind := rest.dropWhile Char.isDigit
  if count = 0 ∨ (digits.head? = some '0' ∧ (count ≠ 1 ∨ dropped ≠ 0)) then
    none
  else
    match behind with
    | '.' :: rest => behindPoint? negative number dropped rest
    | 'e' :: _ | 'E' :: _ => behindDigits? negative number dropped behind
    | _ =>
      if dropped = 0 then some (wholeValue negative number, behind)
      else behindDigits? negative number dropped behind

/-! ### Writing -/

/-- The digits of a decimal number with the point in its place: as it is if the point is near
the digits, and with an exponent otherwise. -/
def writtenDecimal (decimal : Shortest.Decimal) : List Char :=
  let digits := Nat.toDigits 10 decimal.coefficient
  let point : Int := digits.length + decimal.exponent
  if 0 ≤ decimal.exponent ∧ point ≤ 16 then
    Shortest.positional decimal ++ ['.', '0']
  else if -5 < point ∧ point ≤ 16 then
    Shortest.positional decimal
  else
    let exponent := (toString (point - 1)).toList
    match digits with
    | [digit] => digit :: 'e' :: exponent
    | [] => []
    | digit :: others => digit :: '.' :: others ++ 'e' :: exponent

/-- A floating-point number as JSON writes it; what is not finite has no number there. -/
def writtenFloat : Binary64 → List Char
  | .finite negative significand exponent canonical =>
    (if negative then ['-'] else []) ++
      if significand = 0 then "0.0".toList
      else writtenDecimal (Shortest.shortest .even significand exponent canonical)
  | _ => "null".toList

end WidgetAudit.Json
