import Mathlib.Data.Rat.Floor
import Mathlib.Tactic.Positivity
import Mathlib.Tactic.FieldSimp
import WidgetAudit.Number.Binary64

/-!
# Rounding of representable numbers

Rounding looks for the exponent that leaves 53 bits and takes the nearest significand. A
number that the format has already is its own nearest one, so rounding gives back exactly
its significand and exponent. The step that matters is the search for the exponent: the
quotient of the leading bits of numerator and denominator may be one too large, and the
comparison with the number itself decides.
-/

namespace WidgetAudit.Binary64

/-- The leading exponent is that of the largest power of two that a number reaches. The
numerator lies within one binary order of its leading bit, and so does the denominator, so
their quotient lies within one order above or below the guess. -/
theorem leadingExponent_bounds {magnitude : Rat} (positive : 0 < magnitude) :
    (2 : Rat) ^ leadingExponent magnitude ≤ magnitude ∧
      magnitude < (2 : Rat) ^ (leadingExponent magnitude + 1) := by
  have numPositive : 0 < magnitude.num := Rat.num_pos.mpr positive
  have numNonzero : magnitude.num.natAbs ≠ 0 := by omega
  have quotient : magnitude = (magnitude.num.natAbs : Rat) / (magnitude.den : Rat) := by
    have same : ((magnitude.num.natAbs : Int) : Rat) = (magnitude.num : Rat) := by
      rw [Int.natAbs_of_nonneg numPositive.le]
    rw [← Int.cast_natCast, same, Rat.num_div_den]
  have numLow : (2 : Rat) ^ magnitude.num.natAbs.log2 ≤ (magnitude.num.natAbs : Rat) := by
    exact_mod_cast Nat.log2_self_le numNonzero
  have numHigh : (magnitude.num.natAbs : Rat) < (2 : Rat) ^ (magnitude.num.natAbs.log2 + 1) := by
    exact_mod_cast Nat.lt_log2_self
  have denLow : (2 : Rat) ^ magnitude.den.log2 ≤ (magnitude.den : Rat) := by
    exact_mod_cast Nat.log2_self_le magnitude.den_nz
  have denHigh : (magnitude.den : Rat) < (2 : Rat) ^ (magnitude.den.log2 + 1) := by
    exact_mod_cast Nat.lt_log2_self
  have denPositive : (0 : Rat) < (magnitude.den : Rat) := by exact_mod_cast magnitude.den_pos
  set guess : Int := (magnitude.num.natAbs.log2 : Int) - (magnitude.den.log2 : Int) with guessed
  have split : (2 : Rat) ^ guess =
      (2 : Rat) ^ magnitude.num.natAbs.log2 / (2 : Rat) ^ magnitude.den.log2 := by
    rw [guessed, zpow_sub₀ (by norm_num), zpow_natCast, zpow_natCast]
  have above : magnitude < (2 : Rat) ^ (guess + 1) := by
    rw [zpow_add_one₀ (by norm_num), split, div_mul_eq_mul_div, ← pow_succ]
    exact lt_of_eq_of_lt quotient (div_lt_div₀ numHigh denLow (by positivity) (by positivity))
  have below : (2 : Rat) ^ (guess - 1) ≤ magnitude := by
    rw [zpow_sub_one₀ (by norm_num), split, ← div_eq_mul_inv, div_div, ← pow_succ]
    exact le_of_le_of_eq (div_le_div₀ (by positivity) numLow denPositive denHigh.le) quotient.symm
  unfold leadingExponent
  dsimp only
  rw [← guessed]
  split
  · rename_i reached
    exact ⟨reached, above⟩
  · rename_i missed
    refine ⟨below, ?_⟩
    rw [Int.sub_add_cancel]
    exact lt_of_not_ge missed

/-- Only one exponent has a number between its power of two and the next one. -/
theorem leadingExponent_eq {magnitude : Rat} (positive : 0 < magnitude) {exponent : Int}
    (low : (2 : Rat) ^ exponent ≤ magnitude) (high : magnitude < (2 : Rat) ^ (exponent + 1)) :
    leadingExponent magnitude = exponent := by
  obtain ⟨reached, bounded⟩ := leadingExponent_bounds positive
  have first : leadingExponent magnitude < exponent + 1 :=
    (zpow_lt_zpow_iff_right₀ (by norm_num)).mp (lt_of_le_of_lt reached high)
  have second : exponent < leadingExponent magnitude + 1 :=
    (zpow_lt_zpow_iff_right₀ (by norm_num)).mp (lt_of_le_of_lt low bounded)
  omega

/-- A number below a power of two has a smaller leading exponent. -/
theorem leadingExponent_lt {magnitude : Rat} (positive : 0 < magnitude) {exponent : Int}
    (high : magnitude < (2 : Rat) ^ exponent) : leadingExponent magnitude < exponent :=
  (zpow_lt_zpow_iff_right₀ (by norm_num)).mp
    (lt_of_le_of_lt (leadingExponent_bounds positive).1 high)

/-- A number that reaches a power of two has at least its leading exponent. -/
theorem le_leadingExponent {magnitude : Rat} (positive : 0 < magnitude) {exponent : Int}
    (low : (2 : Rat) ^ exponent ≤ magnitude) : exponent ≤ leadingExponent magnitude := by
  have next : exponent < leadingExponent magnitude + 1 :=
    (zpow_lt_zpow_iff_right₀ (by norm_num)).mp
      (lt_of_le_of_lt low (leadingExponent_bounds positive).2)
  omega

/-- The nearest whole number to a whole number is that number. -/
theorem nearestEven_natCast (value : Nat) : nearestEven (value : Rat) = value := by
  have floor : (value : Rat).floor.toNat = value := by
    have whole : ((value : Int) : Rat).floor = (value : Int) := Rat.floor_intCast _
    rw [← Int.cast_natCast, whole, Int.toNat_natCast]
  unfold nearestEven
  rw [floor]
  simp

/-- A positive number that the format has. -/
theorem rational_positive {significand : Nat} (nonzero : significand ≠ 0) (exponent : Int) :
    0 < rational false significand exponent := by
  have positive : (0 : Rat) < (significand : Rat) := by
    exact_mod_cast Nat.pos_of_ne_zero nonzero
  simp only [rational, Bool.false_eq_true, if_false, one_mul]
  exact mul_pos positive (zpow_pos (by norm_num) exponent)

/-- The hidden bit is bit 52. -/
theorem hiddenBit_eq : hiddenBit = 2 ^ 52 := rfl

/-- The exponent that rounding works with is the one that the number has. A significand
of 53 bits leads with bit 52, which fixes the exponent; a smaller one occurs only at the
lowest exponent, where the bound takes over. -/
theorem roundingExponent_eq {significand : Nat} {exponent : Int}
    (canonical : IsCanonical significand exponent) (nonzero : significand ≠ 0) :
    max (leadingExponent (rational false significand exponent) - 52) (-1074) = exponent := by
  obtain ⟨small, lowest, -, subnormal⟩ := canonical
  rw [hiddenBit_eq] at small subnormal
  have positive := rational_positive nonzero exponent
  have powers (bits : Nat) :
      (2 : Rat) ^ ((bits : Int) + exponent) = (2 ^ bits : Nat) * 2 ^ exponent := by
    rw [zpow_add₀ (by norm_num), zpow_natCast]
    norm_cast
  have scale : (0 : Rat) < 2 ^ exponent := zpow_pos (by norm_num) exponent
  have value : rational false significand exponent = (significand : Rat) * 2 ^ exponent := by
    simp only [rational, Bool.false_eq_true, if_false, one_mul]
  by_cases filled : 2 ^ 52 ≤ significand
  · have low : (2 : Rat) ^ ((52 : Nat) + exponent) ≤ rational false significand exponent := by
      rw [powers, value]
      exact mul_le_mul_of_nonneg_right (by exact_mod_cast filled) scale.le
    have high : rational false significand exponent < (2 : Rat) ^ ((52 : Nat) + exponent + 1) := by
      have next : ((52 : Nat) : Int) + exponent + 1 = (53 : Nat) + exponent := by omega
      rw [next, powers, value]
      have small53 : significand < 2 ^ 53 := small
      exact mul_lt_mul_of_pos_right (by exact_mod_cast small53) scale
    rw [leadingExponent_eq positive low high]
    omega
  · have least : exponent = -1074 := subnormal (by omega)
    have high : rational false significand exponent < (2 : Rat) ^ ((52 : Nat) + exponent) := by
      rw [powers, value]
      exact mul_lt_mul_of_pos_right (by exact_mod_cast Nat.lt_of_not_le filled) scale
    have bounded := leadingExponent_lt positive high
    omega

/-- Rounding leaves a number that the format has as it is. -/
theorem round_rational {significand : Nat} {exponent : Int}
    (canonical : IsCanonical significand exponent) (nonzero : significand ≠ 0)
    (negative : Bool) :
    round negative (rational false significand exponent) =
      .finite negative significand exponent canonical := by
  have positive := rational_positive nonzero exponent
  have quotient : rational false significand exponent / 2 ^ exponent = (significand : Rat) := by
    have scale : (2 : Rat) ^ exponent ≠ 0 := zpow_ne_zero _ (by norm_num)
    simp only [rational, Bool.false_eq_true, if_false, one_mul]
    field_simp
  have unfilled : significand ≠ 2 * hiddenBit := Nat.ne_of_lt canonical.1
  unfold round
  rw [if_neg (not_le.mpr positive)]
  dsimp only
  rw [roundingExponent_eq canonical nonzero, quotient, nearestEven_natCast, if_neg unfilled,
    ofParts, dif_pos canonical]

/-- On numbers that are not negative, rounding a rational number has no sign to add. -/
theorem ofRat_of_nonneg {value : Rat} (nonneg : 0 ≤ value) : ofRat value = round false value := by
  simp only [ofRat, not_lt.mpr nonneg, decide_false, Rat.abs_of_nonneg nonneg]

end WidgetAudit.Binary64
