import WidgetAudit.Number.Numeral
import WidgetAudit.Number.Shortest
import WidgetAudit.Text.Blank

/-!
# Values

Properties of widgets and results of expressions are values of five kinds. A value
converts to a number, a whole number, a truth value or a text under the rules of this
module, and two values are equal in the sense of the rule language.

Conversion never fails loudly: what has no conversion gives nothing here, and the
null value where a rule asks for it.
-/

namespace WidgetAudit

/-- A value of the rule language; `null` is an absent one. -/
inductive Value
  | null
  | bool (truth : Bool)
  | int (number : Int64)
  | float (number : Binary64)
  | string (text : String)
deriving DecidableEq, Inhabited

/-- What a value may be cast to. -/
inductive CastTarget
  | int
  | string
  | bool
deriving DecidableEq

/-- The number that arithmetic and ordering see in a value. -/
inductive Numeric
  | int (number : Int64)
  | float (number : Binary64)
deriving DecidableEq

/-- The floating-point number nearest to a number. -/
def Numeric.toBinary64 : Numeric → Binary64
  | .int number => .ofInt number.toInt
  | .float number => number

/-- The number that a text writes between blanks: a 64-bit whole number if it is one,
else a finite floating-point number. -/
def Numeric.ofText? (text : String) : Option Numeric :=
  let trimmed := Text.trim text.toList
  match Numeral.int64? trimmed with
  | some number => some (.int number)
  | none => ((Numeral.binary64? trimmed).filter Binary64.isFinite).map .float

namespace Value

/-- The name of a value's kind. -/
def kind : Value → String
  | .null => "null"
  | .bool _ => "bool"
  | .int _ => "int"
  | .float _ => "float"
  | .string _ => "string"

/-- Only the truth value true holds as a condition. -/
def isTrue : Value → Bool
  | .bool truth => truth
  | _ => false

/-- Whether a value is absent. -/
def isNull : Value → Bool
  | .null => true
  | _ => false

/-- The text of a value, without quotes. -/
def text : Value → String
  | .null => "null"
  | .bool truth => if truth then "true" else "false"
  | .int number => toString number.toInt
  | .float number => String.ofList (Shortest.text number)
  | .string text => text

/-- The number in a value: a number is itself, a text is read. Truth values and the
null value hold none. -/
def numeric? : Value → Option Numeric
  | .int number => some (.int number)
  | .float number => some (.float number)
  | .string text => Numeric.ofText? text
  | .bool _ | .null => none

/-- A number as a 64-bit whole one: the places behind the point are dropped, and what
does not fit has no such form. Whether it fits is asked of floating-point numbers. The
greatest whole number is none of these and is rounded up, so the upper end is left out. -/
def wholeOf? : Numeric → Option Int64
  | .int number => some number
  | .float number =>
    let whole := number.truncated
    if whole.isFinite && (whole.order? (.ofInt Int64.minValue.toInt)).any Ordering.isGE &&
        (whole.order? (.ofInt Int64.maxValue.toInt)).any Ordering.isLT then
      some whole.toInt64
    else
      none

/-- The whole number that a cast to a whole number gives. -/
def wholeNumber? : Value → Option Int64
  | .bool truth => some (if truth then 1 else 0)
  | value => value.numeric?.bind wholeOf?

/-- The truth value that a cast to a truth value gives: numbers other than zero are
true, and a text has to be one of the two words, between blanks, in any mixture of
small and capital letters. -/
def truth? : Value → Option Bool
  | .null => none
  | .bool truth => some truth
  | .int number => some (number != 0)
  | .float number => some (!number.isZero)
  | .string text =>
    let word := (Text.trim text.toList).map Char.toLower
    if word = "true".toList then some true
    else if word = "false".toList then some false
    else none

/-- A cast; what cannot be cast becomes null. -/
def cast (value : Value) : CastTarget → Value
  | .int => (value.wholeNumber?.map .int).getD .null
  | .bool => (value.truth?.map .bool).getD .null
  | .string => if value.isNull then .null else .string value.text

/-- Equality without any conversion other than that of whole numbers to
floating-point ones. -/
def sameAs : Value → Value → Bool
  | .null, .null => true
  | .bool first, .bool second => first == second
  | .int first, .int second => first == second
  | .float first, .float second => first.equals second
  | .int first, .float second => (Binary64.ofInt first.toInt).equals second
  | .float first, .int second => (Binary64.ofInt second.toInt).equals first
  | .string first, .string second => first == second
  | _, _ => false

/-- Whether a value is a truth value. -/
def isBool : Value → Bool
  | .bool _ => true
  | _ => false

/-- Equality of the rule language. Values that are not the same are equal if one of
them is a truth value and both can be cast to the same one. -/
def equals (first second : Value) : Bool :=
  first.sameAs second ||
    ((first.isBool || second.isBool) &&
      match first.truth?, second.truth? with
      | some left, some right => left == right
      | _, _ => false)

end Value

end WidgetAudit
