import WidgetAudit.Proofs.Number.Truncation

/-!
# Calculating with rounded numbers

Sums, differences, products and quotients of finite numbers are rounded once: what an operation
gives is as near to the exact result as any number of the format, as long as the result stays away
from the ends of the format. Results of whole numbers of 64 bits always do.
-/

namespace WidgetAudit.Binary64

/-- The numbers that stand for rational numbers have a sign, a significand and an exponent. -/
theorem exists_finite {number : Binary64} {value : Rat} (has : number.toRat? = some value) :
    ∃ negative significand exponent canonical,
      number = .finite negative significand exponent canonical ∧
      value = rational negative significand exponent := by
  cases number with
  | nan => cases has
  | infinite negative => cases has
  | finite negative significand exponent canonical =>
    exact ⟨_, _, _, canonical, rfl, (Option.some.inj has).symm⟩

/-! ### The operations -/

section Operations

variable {first second : Binary64} {left right : Rat}

/-- The sum of two numbers is a nearest one to the exact sum. -/
theorem add_rounds (has : first.toRat? = some left) (has' : second.toRat? = some right)
    (bounded : |left + right| < 2 ^ (1023 : Int)) : (first.add second).Rounds (left + right) := by
  obtain ⟨negative, significand, exponent, canonical, rfl, rfl⟩ := exists_finite has
  obtain ⟨negative', significand', exponent', canonical', rfl, rfl⟩ := exists_finite has'
  rw [add]
  by_cases none : rational negative significand exponent +
      rational negative' significand' exponent' = 0
  · -- the zero has a sign, and stands for the sum under either one
    have zeros : (zero (negative && negative')).toRat? = some 0 := by
      simp [zero, toRat?, rational]
    rw [if_pos none, none]
    exact ⟨0, zeros, IsRepresentable.nearest ⟨_, zeros⟩⟩
  · rw [if_neg none]
    exact ofRat_nearest bounded

/-- The difference of two numbers is a nearest one to the exact difference. -/
theorem sub_rounds (has : first.toRat? = some left) (has' : second.toRat? = some right)
    (bounded : |left - right| < 2 ^ (1023 : Int)) : (first.sub second).Rounds (left - right) := by
  rw [sub_eq_add_neg] at bounded ⊢
  exact add_rounds has (toRat?_neg has') bounded

/-- The product of two numbers is a nearest one to the exact product. -/
theorem mul_rounds (has : first.toRat? = some left) (has' : second.toRat? = some right)
    (bounded : |left * right| < 2 ^ (1023 : Int)) : (first.mul second).Rounds (left * right) := by
  obtain ⟨negative, significand, exponent, canonical, rfl, rfl⟩ := exists_finite has
  obtain ⟨negative', significand', exponent', canonical', rfl, rfl⟩ := exists_finite has'
  apply round_rounds (mul_nonneg (rational_nonneg _ _) (rational_nonneg _ _)) _ bounded
  rw [rational_eq_ite negative, rational_eq_ite negative']
  cases negative <;> cases negative' <;> simp

/-- The quotient of two numbers is a nearest one to the exact quotient. -/
theorem div_rounds (has : first.toRat? = some left) (has' : second.toRat? = some right)
    (nonzero : right ≠ 0) (bounded : |left / right| < 2 ^ (1023 : Int)) :
    (first.div second).Rounds (left / right) := by
  obtain ⟨negative, significand, exponent, canonical, rfl, rfl⟩ := exists_finite has
  obtain ⟨negative', significand', exponent', canonical', rfl, rfl⟩ := exists_finite has'
  have divides : significand' ≠ 0 := by
    rintro rfl
    exact nonzero (by simp [rational])
  rw [div, if_neg divides]
  apply round_rounds (div_nonneg (rational_nonneg _ _) (rational_nonneg _ _)) _ bounded
  rw [rational_eq_ite negative, rational_eq_ite negative']
  cases negative <;> cases negative' <;> simp [neg_div, div_neg]

end Operations

/-! ### Whole numbers of 64 bits -/

/-- A rounded whole number lies between the ends of the range, or is one of them. -/
theorem abs_ofInt_le {number : Int64} {value : Rat}
    (has : (ofInt number.toInt).toRat? = some value) : |value| ≤ 2 ^ 63 := by
  have least : Int64.minValue.toInt ≤ number.toInt := Int64.le_toInt number
  have greatest : number.toInt ≤ Int64.maxValue.toInt := Int64.toInt_le number
  have low := ofInt_mono least toRat?_ofInt_minValue has
  have high := ofInt_mono greatest has toRat?_ofInt_maxValue
  push_cast at low high
  exact abs_le.mpr ⟨low, high⟩

/-- The sum, the difference and the product of two rounded whole numbers are nearest ones to the
exact results: none of them comes near the ends of the format. -/
theorem ofInt_rounds {first second : Int64} {left right : Rat}
    (has : (ofInt first.toInt).toRat? = some left)
    (has' : (ofInt second.toInt).toRat? = some right) :
    ((ofInt first.toInt).add (ofInt second.toInt)).Rounds (left + right) ∧
      ((ofInt first.toInt).sub (ofInt second.toInt)).Rounds (left - right) ∧
      ((ofInt first.toInt).mul (ofInt second.toInt)).Rounds (left * right) := by
  have size := abs_ofInt_le has
  have size' := abs_ofInt_le has'
  have inside : (2 : Rat) ^ 126 < 2 ^ (1023 : Int) := by
    rw [← zpow_natCast]
    exact zpow_lt_zpow_right₀ (by norm_num) (by norm_num)
  refine ⟨add_rounds has has' (lt_of_le_of_lt ?_ inside),
    sub_rounds has has' (lt_of_le_of_lt ?_ inside),
    mul_rounds has has' (lt_of_le_of_lt ?_ inside)⟩
  · calc |left + right| ≤ |left| + |right| := abs_add_le left right
      _ ≤ 2 ^ 63 + 2 ^ 63 := add_le_add size size'
      _ ≤ 2 ^ 126 := by norm_num
  · calc |left - right| ≤ |left| + |right| := abs_sub left right
      _ ≤ 2 ^ 63 + 2 ^ 63 := add_le_add size size'
      _ ≤ 2 ^ 126 := by norm_num
  · calc |left * right| = |left| * |right| := abs_mul left right
      _ ≤ 2 ^ 63 * 2 ^ 63 := mul_le_mul size size' (abs_nonneg right) (by norm_num)
      _ = 2 ^ 126 := by norm_num

end WidgetAudit.Binary64
