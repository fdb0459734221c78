import WidgetAudit.Proofs.Evaluation.Ordering
import WidgetAudit.Proofs.Number.Truncation

/-!
# Casts

A cast to a whole number gives what is in front of the point, or nothing at all. It is never an end
of the range in the place of a number beyond it, and never a number that has wrapped around. A text
is cast as the number that it writes between blanks.

A cast ends in one step: whatever it gives, the same cast leaves alone.
-/

namespace WidgetAudit

namespace Value

/-- A finite floating-point number is cut off at its point and then taken as a whole number, if 64
bits hold it.

Proof: the cut is exact, and so is the number that it leaves. Both ends of the range are compared
with it as floating-point numbers; the upper one has been rounded up to `2 ^ 63`, which is not to be
reached. -/
theorem wholeOf?_of_toRat? {number : Binary64} {value : Rat} (has : number.toRat? = some value) :
    wholeOf? (.float number) = int64? (towardZero value) := by
  have cut := Binary64.toRat?_truncated has
  have finite : number.truncated.isFinite = true := (Binary64.isFinite_iff _).mpr ⟨_, cut⟩
  have low : (number.truncated.order? (.ofInt Int64.minValue.toInt)).any Ordering.isGE =
      decide (-2 ^ 63 ≤ towardZero value) := by
    rw [Binary64.order?_of_toRat? cut Binary64.toRat?_ofInt_minValue, Option.any_some,
      (cmp_answers _ _).2.2.2.2]
    exact decide_eq_decide.mpr Int.cast_le
  have high : (number.truncated.order? (.ofInt Int64.maxValue.toInt)).any Ordering.isLT =
      decide (towardZero value < 2 ^ 63) := by
    rw [Binary64.order?_of_toRat? cut Binary64.toRat?_ofInt_maxValue, Option.any_some,
      (cmp_answers _ _).2.1]
    exact decide_eq_decide.mpr Int.cast_lt
  have least : Int64.minValue.toInt = -2 ^ 63 := by decide
  have greatest : Int64.maxValue.toInt = 2 ^ 63 - 1 := by decide
  simp only [wholeOf?, finite, low, high, Bool.true_and, Bool.and_eq_true, decide_eq_true_eq]
  cases fits : int64? (towardZero value) with
  | some result =>
    have inside := Int64.le_toInt result
    have inside' := Int64.toInt_lt result
    rw [toInt_of_int64? fits] at inside inside'
    rw [if_pos ⟨by omega, by omega⟩, Binary64.toInt64_of_int64? cut fits]
  | none =>
    have outside := int64?_eq_none_iff.mp fits
    rw [if_neg (by omega)]

/-- What is not finite is no whole number. -/
theorem wholeOf?_of_not_finite {number : Binary64} (missing : number.toRat? = none) :
    wholeOf? (.float number) = none := by
  cases number with
  | nan => rfl
  | infinite negative => rfl
  | finite negative significand exponent canonical => cases missing

/-- A value is the number that a text writes between blanks: a whole number of 64 bits if the text
writes one, and otherwise a finite floating-point number. -/
inductive IsWrittenIn : Value → String → Prop
  | int {text : String} {number : Int64}
      (writes : Numeral.int64? (Text.trim text.toList) = some number) :
      IsWrittenIn (.int number) text
  | float {text : String} {number : Binary64}
      (noInt : Numeral.int64? (Text.trim text.toList) = none)
      (writes : Numeral.binary64? (Text.trim text.toList) = some number)
      (finite : number.isFinite = true) : IsWrittenIn (.float number) text

/-- A text holds the number that it writes. -/
theorem IsWrittenIn.numeric?_eq {value : Value} {text : String} (written : value.IsWrittenIn text) :
    (Value.string text).numeric? = value.numeric? := by
  cases written with
  | int writes => simp [numeric?, Numeric.ofText?, writes]
  | float noInt writes finite => simp [numeric?, Numeric.ofText?, noInt, writes, finite]

/-- A text that holds a number writes one. -/
theorem exists_isWrittenIn {text : String} {number : Numeric}
    (holds : (Value.string text).numeric? = some number) :
    ∃ value : Value, value.IsWrittenIn text := by
  simp only [numeric?, Numeric.ofText?] at holds
  cases whole : Numeral.int64? (Text.trim text.toList) with
  | some own => exact ⟨_, .int whole⟩
  | none =>
    simp only [whole, Option.map_eq_some_iff, Option.filter_eq_some_iff] at holds
    obtain ⟨own, ⟨writes, finite⟩, -⟩ := holds
    exact ⟨_, .float whole writes finite⟩

/-- A value that is no truth value is cast to a whole number as the number in it. -/
theorem wholeNumber?_congr {first second : Value} (noBool : first.isBool = false)
    (noBool' : second.isBool = false) (same : first.numeric? = second.numeric?) :
    first.wholeNumber? = second.wholeNumber? := by
  have byNumber {value : Value} (noBool : value.isBool = false) :
      value.wholeNumber? = value.numeric?.bind wholeOf? := by
    cases value with
    | bool truth => cases noBool
    | _ => rfl
  rw [byNumber noBool, byNumber noBool', same]

/-- What a cast gives the same cast leaves alone. -/
theorem cast_cast (value : Value) (target : CastTarget) :
    (value.cast target).cast target = value.cast target := by
  cases target with
  | int =>
    simp only [cast]
    cases value.wholeNumber? <;> rfl
  | bool =>
    simp only [cast]
    cases value.truth? <;> rfl
  | string => cases value <;> rfl

end Value

/-- A cast to a whole number is exact, or gives null. A finite floating-point number becomes the
next whole number on the way to zero if 64 bits hold that one, and null if they do not; so do the
infinities, and the value that is not a number. A text becomes what the number becomes that it
writes between blanks, or null if it writes none. And casting once more what any cast has given
changes nothing.

Proof: cutting a number off at its point is exact, and its range is found out without error although
the upper end is rounded. -/
theorem whole_casts_are_exact :
    (∀ (number : Binary64) (value : Rat), number.toRat? = some value →
      (-2 ^ 63 ≤ towardZero value → towardZero value ≤ 2 ^ 63 - 1 →
        ∃ result : Int64, result.toInt = towardZero value ∧
          (Value.float number).cast .int = .int result) ∧
      (towardZero value < -2 ^ 63 ∨ 2 ^ 63 - 1 < towardZero value →
        (Value.float number).cast .int = .null)) ∧
    (∀ number : Binary64, number.toRat? = none → (Value.float number).cast .int = .null) ∧
    (∀ (text : String) (value : Value), value.IsWrittenIn text →
      (Value.string text).cast .int = value.cast .int) ∧
    (∀ text : String, (∀ value : Value, ¬value.IsWrittenIn text) →
      (Value.string text).cast .int = .null) ∧
    ∀ (value : Value) (target : CastTarget),
      (value.cast target).cast target = value.cast target := by
  have floating (number : Binary64) : (Value.float number).cast .int =
      ((Value.wholeOf? (.float number)).map .int).getD .null := rfl
  refine ⟨?_, ?_, ?_, ?_, Value.cast_cast⟩
  · intro number value has
    have least : Int64.minValue.toInt = -2 ^ 63 := by decide
    have greatest : Int64.maxValue.toInt = 2 ^ 63 - 1 := by decide
    rw [floating, Value.wholeOf?_of_toRat? has]
    constructor
    · intro low high
      cases fits : int64? (towardZero value) with
      | some result => exact ⟨result, toInt_of_int64? fits, rfl⟩
      | none =>
        have outside := int64?_eq_none_iff.mp fits
        omega
    · intro outside
      rw [int64?_eq_none_iff.mpr (by omega)]
      rfl
  · intro number missing
    rw [floating, Value.wholeOf?_of_not_finite missing]
    rfl
  · intro text value written
    have noBool : value.isBool = false := by cases written <;> rfl
    simp only [Value.cast,
      Value.wholeNumber?_congr rfl noBool written.numeric?_eq]
  · intro text unwritten
    have missing : (Value.string text).numeric? = none := by
      by_contra present
      obtain ⟨number, holds⟩ := Option.ne_none_iff_exists'.mp present
      obtain ⟨value, written⟩ := Value.exists_isWrittenIn holds
      exact unwritten value written
    simp only [Value.cast, Value.wholeNumber?, missing]
    rfl

/-- The last floating-point number below `2 ^ 63` is cast to itself and that power to null, and a
text of a fraction to the whole number on its way to zero. -/
theorem whole_casts_are_exact_atEnd :
    let last : Binary64 := .finite false (2 ^ 53 - 1) 10 (by decide)
    let power : Binary64 := .finite false (2 ^ 52) 11 (by decide)
    (Value.float last).cast .int = .int 9223372036854774784 ∧
      (Value.float power).cast .int = .null ∧
      (Value.string " -28.75 ").cast .int = .int (-28) := by
  intro last power
  let fraction : Binary64 := .finite true (115 * 2 ^ 46) (-48) (by decide)
  obtain ⟨finite, -, texts, -⟩ := whole_casts_are_exact
  have ofNumber {number : Binary64} {value : Rat} {result : Int64}
      (has : number.toRat? = some value) (cut : towardZero value = result.toInt) :
      (Value.float number).cast .int = .int result := by
    have low := Int64.le_toInt result
    have high := Int64.toInt_lt result
    obtain ⟨own, exact, given⟩ := (finite number value has).1 (by omega) (by omega)
    rw [given, Int64.toInt_inj.mp (exact.trans cut)]
  have atLast : last.toRat? = some 9223372036854774784 := by decide +kernel
  have atPower : power.toRat? = some 9223372036854775808 := by decide +kernel
  have atFraction : fraction.toRat? = some (-115 / 4) := by decide +kernel
  have beyond : 2 ^ 63 - 1 < towardZero 9223372036854775808 := by decide +kernel
  have written : (Value.float fraction).IsWrittenIn " -28.75 " :=
    .float (by decide +kernel) (by decide +kernel) rfl
  refine ⟨ofNumber atLast (by decide +kernel), (finite power _ atPower).2 (.inr beyond), ?_⟩
  rw [texts _ _ written]
  exact ofNumber atFraction (by decide +kernel)

end WidgetAudit
