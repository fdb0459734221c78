import WidgetAudit.Proofs.Number.Order

/-!
# Cutting off the digits behind the point

The digits behind the point of a floating-point number can be cut off without any rounding: either
there are none, or what is in front of the point is so small that the format has it. Turning the
rest into a whole number of 64 bits changes nothing either, as long as it lies in their range.

Whether it does is found out among floating-point numbers. The lower end of the range is one of
them. The upper end is not, and is rounded up to the first number outside; no floating-point number
lies between the two.
-/

namespace WidgetAudit

/-- What is left of a rational number when the digits behind its point are cut off. -/
def towardZero (value : Rat) : Int := if value < 0 then ⌈value⌉ else ⌊value⌋

/-- A number that is not negative is cut down to the whole number below it. -/
theorem towardZero_of_nonneg {value : Rat} (nonneg : 0 ≤ value) : towardZero value = ⌊value⌋ :=
  if_neg (not_lt.mpr nonneg)

/-- Whole numbers are left as they are. -/
theorem towardZero_intCast (whole : Int) : towardZero whole = whole := by
  unfold towardZero
  split
  · exact Int.ceil_intCast whole
  · exact Int.floor_intCast whole

/-- The sign has no influence. -/
theorem towardZero_neg_of_nonneg {value : Rat} (nonneg : 0 ≤ value) :
    towardZero (-value) = -⌊value⌋ := by
  unfold towardZero
  split
  · exact Int.ceil_neg
  · rename_i notNegative
    have none : value = 0 := by linarith
    simp [none]

namespace Binary64

/-- The finite numbers are those that stand for rational numbers. -/
theorem isFinite_iff (number : Binary64) :
    number.isFinite = true ↔ ∃ value, number.toRat? = some value := by
  cases number <;> simp [isFinite, toRat?]

/-- A number without a sign is not negative. -/
theorem rational_nonneg (significand : Nat) (exponent : Int) :
    0 ≤ rational false significand exponent := by
  simp only [rational, Bool.false_eq_true, if_false, one_mul]
  exact mul_nonneg (Nat.cast_nonneg _) (zpow_nonneg (by norm_num) _)

/-- Under a sign, what is in front of the point of a magnitude is what the number is cut to. -/
theorem towardZero_rational (negative : Bool) (significand : Nat) (exponent : Int) :
    towardZero (rational negative significand exponent) =
      if negative then -(rational false significand exponent).floor
      else (rational false significand exponent).floor := by
  have nonneg := rational_nonneg significand exponent
  rw [rational_eq_ite]
  cases negative with
  | false => exact towardZero_of_nonneg nonneg
  | true => exact towardZero_neg_of_nonneg nonneg

/-! ### Truncated numbers -/

/-- The format has what is in front of the point of its numbers. -/
theorem isRepresentable_floor {significand : Nat} {exponent : Int}
    (canonical : IsCanonical significand exponent) :
    IsRepresentable (((rational false significand exponent).floor : Int) : Rat) := by
  have nonneg := rational_nonneg significand exponent
  have form : rational false significand exponent = significand * 2 ^ exponent := by
    simp only [rational, Bool.false_eq_true, if_false, one_mul]
  rcases le_or_gt 0 exponent with large | small
  · -- nothing is behind the point
    obtain ⟨places, rfl⟩ := Int.eq_ofNat_of_zero_le large
    have whole : rational false significand places = ((significand * 2 ^ places : Int) : Rat) := by
      rw [form]
      norm_num
    rw [whole, Rat.floor_intCast, ← whole]
    exact ⟨.finite false significand places canonical, rfl⟩
  · -- less than `2 ^ 53` is in front of it
    obtain ⟨front, isFloor⟩ := Int.eq_ofNat_of_zero_le (Rat.le_floor_iff.mpr (by simpa using nonneg))
    have atMost : rational false significand exponent ≤ significand := by
      rw [form]
      exact mul_le_of_le_one_right (Nat.cast_nonneg _) (zpow_le_one_of_nonpos₀ (by norm_num) small.le)
    have below : (front : Rat) ≤ significand := by
      have floor := Rat.floor_le (rational false significand exponent)
      rw [isFloor] at floor
      exact_mod_cast floor.trans atMost
    have bounded : front ≤ 2 ^ 53 := by
      have small : significand < 2 ^ 53 := canonical.1
      have le : front ≤ significand := Nat.cast_le.mp below
      omega
    rw [isFloor]
    exact_mod_cast isRepresentable_natCast bounded

/-- Rounding under a sign leaves a magnitude that the format has as it is. -/
theorem toRat?_round {magnitude : Rat} (nonneg : 0 ≤ magnitude)
    (representable : IsRepresentable magnitude) (negative : Bool) :
    (round negative magnitude).toRat? = some (if negative then -magnitude else magnitude) := by
  rcases nonneg.eq_or_lt with rfl | positive
  · have rounded : round negative 0 = zero negative := by rw [round, if_pos (le_refl 0)]
    rw [rounded]
    cases negative <;> simp [zero, toRat?, rational]
  · obtain ⟨number, has⟩ := representable
    cases number with
    | nan => cases has
    | infinite sign => cases has
    | finite sign significand exponent canonical =>
      cases has
      have unsigned : sign = false := by
        rw [← Bool.not_eq_true]
        rintro rfl
        have opposite := rational_not false significand exponent
        have nonneg := rational_nonneg significand exponent
        rw [Bool.not_false] at opposite
        linarith
      subst unsigned
      have nonzero : significand ≠ 0 := by
        rintro rfl
        simp [rational] at positive
      rw [round_rational canonical nonzero]
      cases negative with
      | false => rfl
      | true => exact congrArg some (rational_not false significand exponent)

/-- Cutting off the digits behind the point is exact. -/
theorem toRat?_truncated {number : Binary64} {value : Rat} (has : number.toRat? = some value) :
    number.truncated.toRat? = some (towardZero value : Rat) := by
  cases number with
  | nan => cases has
  | infinite negative => cases has
  | finite negative significand exponent canonical =>
    cases has
    have front : (0 : Rat) ≤ ((rational false significand exponent).floor : Int) := by
      exact_mod_cast Rat.le_floor_iff.mpr (by simpa using rational_nonneg significand exponent)
    rw [truncated, toRat?_round front (isRepresentable_floor canonical), towardZero_rational]
    cases negative <;> simp

/-! ### Whole numbers of 64 bits -/

/-- A whole number that 64 bits hold is turned into itself. -/
theorem toInt64_of_int64? {number : Binary64} {whole : Int} {result : Int64}
    (has : number.toRat? = some (whole : Rat)) (fits : int64? whole = some result) :
    number.toInt64 = result := by
  cases number with
  | nan => cases has
  | infinite negative => cases has
  | finite negative significand exponent canonical =>
    have front : (if negative then -(rational false significand exponent).floor
        else (rational false significand exponent).floor) = whole := by
      rw [← towardZero_rational, Option.some.inj has, towardZero_intCast]
    have value := toInt_of_int64? fits
    have low := Int64.le_toInt result
    have high := Int64.toInt_lt result
    have least : Int64.minValue.toInt = -2 ^ 63 := by decide
    have greatest : Int64.maxValue.toInt = 2 ^ 63 - 1 := by decide
    simp only [toInt64, front]
    rw [if_neg (by omega), if_neg (by omega), ← value, Int64.ofInt_toInt]

/-- The least whole number is a floating-point number. -/
theorem toRat?_ofInt_minValue :
    (ofInt Int64.minValue.toInt).toRat? = some ((-2 ^ 63 : Int) : Rat) := by
  decide +kernel

/-- The greatest whole number is rounded up. -/
theorem toRat?_ofInt_maxValue :
    (ofInt Int64.maxValue.toInt).toRat? = some ((2 ^ 63 : Int) : Rat) := by
  decide +kernel

end Binary64

end WidgetAudit
