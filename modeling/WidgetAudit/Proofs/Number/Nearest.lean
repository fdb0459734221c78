import Mathlib.Order.Compare
import Mathlib.Tactic.Linarith
import Mathlib.Algebra.Order.Ring.Abs
import WidgetAudit.Proofs.Number.Rounding

/-!
# Rounding to the nearest number

Rounding gives a number of the format that is as near to the rounded one as any, as long as the
rounded one stays away from the end of the format. Two facts make this up. The whole number next to
the scaled magnitude is as near to it as any whole number; and a number of the format that is no
whole multiple of the rounding unit lies below the power of two that the magnitude has reached,
which is a multiple and at least as near.

What is used elsewhere follows from nearness alone: rounding keeps the order, and leaves alone what
the format has.
-/

namespace WidgetAudit.Binary64

/-- The rational numbers that the format has. -/
def IsRepresentable (value : Rat) : Prop := ∃ number : Binary64, number.toRat? = some value

/-- A number of the format that is as near to a rational one as any other of the format. -/
structure IsNearest (value target : Rat) : Prop where
  representable : IsRepresentable value
  nearest : ∀ other, IsRepresentable other → |value - target| ≤ |other - target|

/-- A number stands for a nearest one to a rational number. -/
def Rounds (number : Binary64) (exact : Rat) : Prop :=
  ∃ value, number.toRat? = some value ∧ IsNearest value exact

/-! ### Nearness -/

/-- The other sign negates the rational number. -/
theorem rational_not (negative : Bool) (significand : Nat) (exponent : Int) :
    rational (!negative) significand exponent = -rational negative significand exponent := by
  cases negative <;> simp [rational]

/-- A number is its magnitude under its sign. -/
theorem rational_eq_ite (negative : Bool) (significand : Nat) (exponent : Int) :
    rational negative significand exponent =
      if negative then -rational false significand exponent
      else rational false significand exponent := by
  cases negative with
  | false => rfl
  | true => exact rational_not false significand exponent

/-- A number of the format is a whole multiple of its power of two. -/
theorem exists_rational_eq (negative : Bool) (significand : Nat) (exponent : Int) :
    ∃ whole : Int, whole.natAbs = significand ∧
      rational negative significand exponent = whole * 2 ^ exponent := by
  cases negative with
  | false => exact ⟨significand, Int.natAbs_natCast _, by simp [rational]⟩
  | true => exact ⟨-significand, by simp, by simp [rational]⟩

/-- The other sign negates what a number stands for. -/
theorem toRat?_neg {number : Binary64} {value : Rat} (has : number.toRat? = some value) :
    number.neg.toRat? = some (-value) := by
  cases number with
  | nan => cases has
  | infinite negative => cases has
  | finite negative significand exponent canonical =>
    cases has
    exact congrArg some (rational_not negative significand exponent)

/-- The format has the opposites of its numbers. -/
theorem IsRepresentable.neg {value : Rat} (representable : IsRepresentable value) :
    IsRepresentable (-value) := by
  obtain ⟨number, has⟩ := representable
  exact ⟨number.neg, toRat?_neg has⟩

/-- What is nearest to a number is, with the other sign, nearest to its opposite. -/
theorem IsNearest.neg {value target : Rat} (near : IsNearest value target) :
    IsNearest (-value) (-target) := by
  have mirrored (point : Rat) : |(-point) - (-target)| = |point - target| := by
    rw [neg_sub_neg, abs_sub_comm]
  refine ⟨near.representable.neg, fun other representable => ?_⟩
  have nearer := near.nearest (-other) representable.neg
  rwa [mirrored, ← neg_neg other, mirrored]

/-- A number of the format is nearest only to itself. -/
theorem IsNearest.eq_of_representable {value target : Rat} (near : IsNearest value target)
    (representable : IsRepresentable target) : value = target := by
  have none : |value - target| ≤ 0 := by
    simpa using near.nearest target representable
  exact sub_eq_zero.mp (abs_nonpos_iff.mp none)

/-- A number of the format is nearest to itself. -/
theorem IsRepresentable.nearest {value : Rat} (representable : IsRepresentable value) :
    IsNearest value value := by
  refine ⟨representable, fun other _ => ?_⟩
  rw [sub_self, abs_zero]
  exact abs_nonneg _

/-- The larger of two numbers is at least as near to a point if the point is not below their
middle. -/
theorem add_le_of_nearer {low high point : Rat} (below : low < high)
    (nearer : |high - point| ≤ |low - point|) : low + high ≤ 2 * point := by
  have squares := sq_le_sq.mpr nearer
  nlinarith

/-- And the smaller one is at least as near if the point is not above their middle. -/
theorem le_add_of_nearer {low high point : Rat} (below : low < high)
    (nearer : |low - point| ≤ |high - point|) : 2 * point ≤ low + high := by
  have squares := sq_le_sq.mpr nearer
  nlinarith

/-- Going to the nearest number keeps the order. Were the order of two nearest numbers the wrong
one, the middle between them would have to be on the wrong side of both points. -/
theorem IsNearest.mono {low high lowTarget highTarget : Rat} (lowNear : IsNearest low lowTarget)
    (highNear : IsNearest high highTarget) (below : lowTarget < highTarget) : low ≤ high := by
  by_contra wrong
  have crossed : high < low := not_le.mp wrong
  have first := add_le_of_nearer crossed (lowNear.nearest high highNear.representable)
  have second := le_add_of_nearer crossed (highNear.nearest low lowNear.representable)
  linarith

/-- A number of the format lies on the same side of a number and of a nearest one, unless it is the
nearest one itself and not the number. -/
theorem IsNearest.cmp_eq {rounded target value : Rat} (near : IsNearest rounded target)
    (representable : IsRepresentable value) (apart : value = rounded → value = target) :
    cmp rounded value = cmp target value := by
  rcases lt_trichotomy target value with below | rfl | above
  · have le : rounded ≤ value := near.mono representable.nearest below
    have distinct : rounded ≠ value := fun same => below.ne (apart same.symm).symm
    rw [(cmp_eq_lt_iff _ _).mpr below, (cmp_eq_lt_iff _ _).mpr (lt_of_le_of_ne le distinct)]
  · rw [near.eq_of_representable representable]
  · have le : value ≤ rounded := representable.nearest.mono near above
    have distinct : value ≠ rounded := fun same => above.ne (apart same)
    rw [(cmp_eq_gt_iff _ _).mpr above, (cmp_eq_gt_iff _ _).mpr (lt_of_le_of_ne le distinct)]

/-! ### The nearest whole number -/

/-- The nearest whole number is at most one half away. -/
theorem nearestEven_close {magnitude : Rat} (nonneg : 0 ≤ magnitude) :
    |(nearestEven magnitude : Rat) - magnitude| ≤ 1 / 2 := by
  have whole : ((magnitude.floor.toNat : Nat) : Rat) = (magnitude.floor : Rat) := by
    have floorNonneg : 0 ≤ magnitude.floor := Rat.le_floor_iff.mpr (by exact_mod_cast nonneg)
    exact_mod_cast Int.toNat_of_nonneg floorNonneg
  have low : (magnitude.floor : Rat) ≤ magnitude := Rat.floor_le magnitude
  have high : magnitude < magnitude.floor + 1 := by
    exact_mod_cast Rat.lt_floor_add_one magnitude
  unfold nearestEven
  dsimp only
  rw [whole]
  rw [abs_le]
  split
  · rename_i down
    have part : magnitude - magnitude.floor ≤ 1 / 2 := by
      rcases down with less | ⟨half, _⟩
      · exact less.le
      · exact half.le
    rw [whole]
    constructor <;> linarith
  · rename_i up
    have part : 1 / 2 ≤ magnitude - magnitude.floor := by
      by_contra less
      exact up (.inl (not_le.mp less))
    rw [Nat.cast_add, whole, Nat.cast_one]
    constructor <;> linarith

/-- No whole number is nearer. -/
theorem nearestEven_nearest {magnitude : Rat} (nonneg : 0 ≤ magnitude) (whole : Int) :
    |(nearestEven magnitude : Rat) - magnitude| ≤ |(whole : Rat) - magnitude| := by
  have close := nearestEven_close nonneg
  by_cases same : whole = (nearestEven magnitude : Int)
  · rw [same, Int.cast_natCast]
  · have apart : (1 : Rat) ≤ |(whole : Rat) - (nearestEven magnitude : Rat)| := by
      have distinct : 1 ≤ |whole - (nearestEven magnitude : Int)| :=
        Int.one_le_abs (sub_ne_zero.mpr same)
      exact_mod_cast distinct
    have triangle := abs_sub_le (whole : Rat) magnitude (nearestEven magnitude : Rat)
    rw [abs_sub_comm magnitude] at triangle
    linarith

/-! ### The unit of rounding -/

/-- The exponent of the unit that a magnitude is rounded to a multiple of. -/
def roundingExponent (magnitude : Rat) : Int := max (leadingExponent magnitude - 52) (-1074)

/-- The multiple of its unit that a magnitude is rounded to. -/
def roundedMultiple (magnitude : Rat) : Nat :=
  nearestEven (magnitude / 2 ^ roundingExponent magnitude)

section Unit

variable {magnitude : Rat}

/-- A positive magnitude is less than `2 ^ 53` units. -/
theorem lt_units (positive : 0 < magnitude) :
    magnitude < 2 ^ 53 * (2 : Rat) ^ roundingExponent magnitude := by
  have reach : leadingExponent magnitude + 1 ≤ 53 + roundingExponent magnitude := by
    unfold roundingExponent
    omega
  calc magnitude < (2 : Rat) ^ (leadingExponent magnitude + 1) :=
        (leadingExponent_bounds positive).2
    _ ≤ (2 : Rat) ^ ((53 : Int) + roundingExponent magnitude) :=
        zpow_le_zpow_right₀ (by norm_num) reach
    _ = 2 ^ 53 * (2 : Rat) ^ roundingExponent magnitude := by
        rw [zpow_add₀ (by norm_num)]
        norm_num

/-- Unless the unit is the least one, a positive magnitude is at least `2 ^ 52` units. -/
theorem units_le (positive : 0 < magnitude) (large : -1074 < roundingExponent magnitude) :
    2 ^ 52 * (2 : Rat) ^ roundingExponent magnitude ≤ magnitude := by
  have leading : leadingExponent magnitude = 52 + roundingExponent magnitude := by
    unfold roundingExponent at large ⊢
    omega
  calc 2 ^ 52 * (2 : Rat) ^ roundingExponent magnitude
      = (2 : Rat) ^ ((52 : Int) + roundingExponent magnitude) := by
        rw [zpow_add₀ (by norm_num)]
        norm_num
    _ = (2 : Rat) ^ leadingExponent magnitude := by rw [leading]
    _ ≤ magnitude := (leadingExponent_bounds positive).1

/-- No multiple of the unit is nearer than the one that is rounded to. -/
theorem roundedMultiple_nearest (nonneg : 0 ≤ magnitude) (whole : Int) :
    |roundedMultiple magnitude * (2 : Rat) ^ roundingExponent magnitude - magnitude| ≤
      |whole * (2 : Rat) ^ roundingExponent magnitude - magnitude| := by
  set unit : Rat := 2 ^ roundingExponent magnitude with unitForm
  have positive : 0 < unit := zpow_pos (by norm_num) _
  have scaled (multiple : Rat) :
      |multiple * unit - magnitude| = |multiple - magnitude / unit| * unit := by
    rw [← abs_of_pos positive, ← abs_mul, abs_of_pos positive, sub_mul,
      div_mul_cancel₀ _ positive.ne']
  rw [scaled, scaled]
  exact mul_le_mul_of_nonneg_right
    (nearestEven_nearest (div_nonneg nonneg positive.le) whole) positive.le

/-- A number of the format is a multiple of a unit, or it lies below `2 ^ 52` units. -/
theorem multiple_or_lt {other : Rat} (representable : IsRepresentable other) (unit : Int) :
    (∃ whole : Int, other = whole * (2 : Rat) ^ unit) ∨
      -1074 < unit ∧ other < 2 ^ 52 * (2 : Rat) ^ unit := by
  obtain ⟨number, has⟩ := representable
  cases number with
  | nan => cases has
  | infinite negative => cases has
  | finite negative significand exponent canonical =>
    cases has
    obtain ⟨own, sized, form⟩ := exists_rational_eq negative significand exponent
    rw [form]
    by_cases coarse : unit ≤ exponent
    · obtain ⟨places, rfl⟩ := Int.exists_add_of_le coarse
      refine .inl ⟨own * 2 ^ places, ?_⟩
      rw [zpow_add₀ (by norm_num), zpow_natCast]
      push_cast
      ring
    · obtain ⟨small, lowest, -, -⟩ := canonical
      have fewer : own < 2 ^ 53 := by
        have bound : significand < 2 ^ 53 := small
        omega
      refine .inr ⟨by omega, ?_⟩
      calc (own : Rat) * 2 ^ exponent < 2 ^ 53 * (2 : Rat) ^ exponent := by
            refine mul_lt_mul_of_pos_right ?_ (zpow_pos (by norm_num) exponent)
            exact_mod_cast fewer
        _ = 2 ^ 52 * (2 : Rat) ^ (exponent + 1) := by
            rw [zpow_add_one₀ (by norm_num)]
            ring
        _ ≤ 2 ^ 52 * (2 : Rat) ^ unit := by
            refine mul_le_mul_of_nonneg_left ?_ (by norm_num)
            exact zpow_le_zpow_right₀ (by norm_num) (by omega)

/-- No number of the format is nearer to a positive magnitude than the multiple of the unit that is
rounded to. -/
theorem roundedMultiple_nearest_of_representable (positive : 0 < magnitude) {other : Rat}
    (representable : IsRepresentable other) :
    |roundedMultiple magnitude * (2 : Rat) ^ roundingExponent magnitude - magnitude| ≤
      |other - magnitude| := by
  obtain ⟨whole, rfl⟩ | ⟨large, below⟩ :=
    multiple_or_lt representable (roundingExponent magnitude)
  · exact roundedMultiple_nearest positive.le whole
  · have reached := units_le positive large
    -- the power of two that has been reached is a multiple, and it lies between the two
    calc _ ≤ |((2 ^ 52 : Int) : Rat) * (2 : Rat) ^ roundingExponent magnitude - magnitude| :=
          roundedMultiple_nearest positive.le (2 ^ 52)
      _ = magnitude - 2 ^ 52 * (2 : Rat) ^ roundingExponent magnitude := by
          rw [Int.cast_pow, Int.cast_ofNat, abs_sub_comm, abs_of_nonneg (sub_nonneg.mpr reached)]
      _ ≤ magnitude - other := sub_le_sub_left below.le magnitude
      _ = |other - magnitude| := by
          rw [abs_sub_comm, abs_of_nonneg (sub_nonneg.mpr (below.le.trans reached))]

/-- Rounding a magnitude gives at most `2 ^ 53` units, and not fewer than `2 ^ 52` unless the unit
is the least one. -/
theorem roundedMultiple_bounds (positive : 0 < magnitude) :
    roundedMultiple magnitude ≤ 2 ^ 53 ∧
      (-1074 < roundingExponent magnitude → 2 ^ 52 ≤ roundedMultiple magnitude) := by
  have unitPositive : (0 : Rat) < 2 ^ roundingExponent magnitude := zpow_pos (by norm_num) _
  have close := abs_le.mp (nearestEven_close (div_nonneg positive.le unitPositive.le))
  constructor
  · have few : magnitude / 2 ^ roundingExponent magnitude < 2 ^ 53 :=
      (div_lt_iff₀ unitPositive).mpr (lt_units positive)
    have bound : (roundedMultiple magnitude : Rat) < (2 ^ 53 + 1 : Nat) := by
      push_cast
      unfold roundedMultiple
      linarith
    exact Nat.lt_succ_iff.mp (Nat.cast_lt.mp bound)
  · intro large
    have many : 2 ^ 52 ≤ magnitude / 2 ^ roundingExponent magnitude :=
      (le_div_iff₀ unitPositive).mpr (units_le positive large)
    have bound : ((2 ^ 52 : Nat) : Rat) < (roundedMultiple magnitude + 1 : Nat) := by
      push_cast
      unfold roundedMultiple
      linarith
    exact Nat.lt_succ_iff.mp (Nat.cast_lt.mp bound)

/-! ### Rounding -/

/-- Away from the end of the format a positive magnitude is rounded to a finite number, which is the
nearest multiple of its unit. A full significand of 54 bits is written with the next exponent. -/
theorem round_eq_multiple (positive : 0 < magnitude) (bounded : magnitude < 2 ^ (1023 : Int))
    (negative : Bool) :
    ∃ significand exponent canonical,
      round negative magnitude = .finite negative significand exponent canonical ∧
      rational false significand exponent =
        roundedMultiple magnitude * 2 ^ roundingExponent magnitude := by
  obtain ⟨few, many⟩ := roundedMultiple_bounds positive
  have low : -1074 ≤ roundingExponent magnitude := le_max_right _ _
  have high : roundingExponent magnitude ≤ 970 := by
    have below := leadingExponent_lt positive bounded
    unfold roundingExponent
    omega
  have rounded : round negative magnitude =
      if roundedMultiple magnitude = 2 * hiddenBit then
        ofParts negative hiddenBit (roundingExponent magnitude + 1)
      else ofParts negative (roundedMultiple magnitude) (roundingExponent magnitude) := by
    rw [round, if_neg (not_le.mpr positive)]
    rfl
  by_cases full : roundedMultiple magnitude = 2 * hiddenBit
  · have canonical : IsCanonical hiddenBit (roundingExponent magnitude + 1) :=
      ⟨by decide, by omega, by omega, fun less => absurd less (Nat.lt_irrefl _)⟩
    refine ⟨_, _, canonical, ?_, ?_⟩
    · rw [rounded, if_pos full, ofParts, dif_pos canonical]
    · simp only [full, rational, Bool.false_eq_true, if_false, one_mul, Nat.cast_mul,
        Nat.cast_ofNat, zpow_add_one₀ (two_ne_zero' Rat)]
      ring
  · have canonical : IsCanonical (roundedMultiple magnitude) (roundingExponent magnitude) := by
      rw [hiddenBit_eq] at full
      refine ⟨?_, low, by omega, ?_⟩
      · rw [hiddenBit_eq]
        omega
      · intro less
        rw [hiddenBit_eq] at less
        by_contra other
        have reached := many (by omega)
        omega
    refine ⟨_, _, canonical, ?_, ?_⟩
    · rw [rounded, if_neg full, ofParts, dif_pos canonical]
    · simp [rational]

/-- Away from the end of the format a magnitude is rounded to a nearest number. -/
theorem round_nearest (nonneg : 0 ≤ magnitude) (bounded : magnitude < 2 ^ (1023 : Int))
    (negative : Bool) :
    ∃ significand exponent canonical,
      round negative magnitude = .finite negative significand exponent canonical ∧
      IsNearest (rational false significand exponent) magnitude := by
  rcases nonneg.eq_or_lt with rfl | positive
  · have none : rational false 0 (-1074) = 0 := by simp [rational]
    have representable : IsRepresentable (rational false 0 (-1074)) := ⟨zero false, rfl⟩
    refine ⟨0, -1074, by decide, rfl, ?_⟩
    simpa only [none] using representable.nearest
  · obtain ⟨significand, exponent, canonical, rounded, value⟩ :=
      round_eq_multiple positive bounded negative
    refine ⟨significand, exponent, canonical, rounded, ⟨.finite false _ _ canonical, rfl⟩, ?_⟩
    intro other representable
    rw [value]
    exact roundedMultiple_nearest_of_representable positive representable

end Unit

/-- A magnitude that is rounded under a sign is a nearest number to it under that sign. -/
theorem round_rounds {magnitude exact : Rat} {negative : Bool} (nonneg : 0 ≤ magnitude)
    (signed : exact = if negative then -magnitude else magnitude)
    (bounded : |exact| < 2 ^ (1023 : Int)) : (round negative magnitude).Rounds exact := by
  have size : |exact| = magnitude := by
    cases negative <;> simp [signed, abs_of_nonneg nonneg]
  rw [size] at bounded
  obtain ⟨significand, exponent, canonical, rounded, near⟩ :=
    round_nearest nonneg bounded negative
  refine ⟨rational negative significand exponent, congrArg toRat? rounded, ?_⟩
  rw [signed, rational_eq_ite]
  cases negative with
  | false => exact near
  | true => exact near.neg

/-- A rational number away from the ends of the format is rounded to a nearest number. -/
theorem ofRat_nearest {value : Rat} (bounded : |value| < 2 ^ (1023 : Int)) :
    (ofRat value).Rounds value := by
  rw [ofRat]
  by_cases negative : value < 0
  · have magnitude : value.abs = -value := Rat.abs_of_nonpos negative.le
    exact round_rounds (by linarith) (by simp [negative, magnitude]) bounded
  · have nonneg : 0 ≤ value := not_lt.mp negative
    have magnitude : value.abs = value := Rat.abs_of_nonneg nonneg
    exact round_rounds (by linarith) (by simp [negative, magnitude]) bounded

/-! ### Whole numbers of 64 bits -/

/-- A whole number of 64 bits is rounded to a nearest number. -/
theorem ofInt_nearest (number : Int64) :
    (ofInt number.toInt).Rounds number.toInt := by
  refine ofRat_nearest ?_
  have low := Int64.le_toInt number
  have high := Int64.toInt_lt number
  have magnitude : |number.toInt| ≤ 2 ^ 63 := abs_le.mpr ⟨by omega, by omega⟩
  calc |(number.toInt : Rat)| = ((|number.toInt| : Int) : Rat) := (Int.cast_abs).symm
    _ ≤ ((2 ^ 63 : Int) : Rat) := Int.cast_le.mpr magnitude
    _ = 2 ^ (63 : Int) := by norm_cast
    _ < 2 ^ (1023 : Int) := zpow_lt_zpow_right₀ (by norm_num) (by norm_num)

/-- Rounding keeps the order of whole numbers of 64 bits. -/
theorem ofInt_mono {low high : Int64} (le : low.toInt ≤ high.toInt) {lowRounded highRounded : Rat}
    (hasLow : (ofInt low.toInt).toRat? = some lowRounded)
    (hasHigh : (ofInt high.toInt).toRat? = some highRounded) : lowRounded ≤ highRounded := by
  rcases le.eq_or_lt with same | less
  · rw [same, hasHigh] at hasLow
    exact (Option.some.inj hasLow).ge
  · obtain ⟨rounded, has, lowNear⟩ := ofInt_nearest low
    obtain ⟨rounded', has', highNear⟩ := ofInt_nearest high
    obtain rfl := Option.some.inj (has.symm.trans hasLow)
    obtain rfl := Option.some.inj (has'.symm.trans hasHigh)
    exact lowNear.mono highNear (Int.cast_lt.mpr less)

/-- The format has every whole number of at most 53 bits, and `2 ^ 53`. -/
theorem isRepresentable_natCast {value : Nat} (small : value ≤ 2 ^ 53) :
    IsRepresentable (value : Rat) := by
  rcases small.eq_or_lt with rfl | small
  · refine ⟨.finite false (2 ^ 52) 1 (by decide), congrArg some ?_⟩
    norm_num [rational]
  · by_cases none : value = 0
    · subst none
      exact ⟨zero false, congrArg some (by simp [rational])⟩
    · -- shift the leading bit to bit 52
      have leading : value.log2 ≤ 52 := Nat.lt_succ_iff.mp ((Nat.log2_lt none).mpr small)
      obtain ⟨places, counted⟩ := Nat.exists_eq_add_of_le leading
      have low : 2 ^ 52 ≤ value * 2 ^ places := by
        rw [counted, pow_add]
        exact Nat.mul_le_mul_right _ (Nat.log2_self_le none)
      have high : value * 2 ^ places < 2 ^ 53 := by
        have next : 2 ^ 53 = 2 ^ (value.log2 + 1) * 2 ^ places := by
          rw [← pow_add]
          congr 1
          omega
        rw [next]
        exact Nat.mul_lt_mul_of_pos_right Nat.lt_log2_self (by positivity)
      have canonical : IsCanonical (value * 2 ^ places) (-places) :=
        ⟨high, by omega, by omega, fun less => absurd low (Nat.not_le.mpr less)⟩
      refine ⟨.finite false _ _ canonical, congrArg some ?_⟩
      simp only [rational, Bool.false_eq_true, if_false, one_mul, zpow_neg, zpow_natCast]
      push_cast
      field_simp

/-- A whole number up to `2 ^ 53` is not changed by rounding. -/
theorem ofInt_exact {number : Int64} (small : number.toInt.natAbs ≤ 2 ^ 53) :
    (ofInt number.toInt).toRat? = some (number.toInt : Rat) := by
  obtain ⟨rounded, has, near⟩ := ofInt_nearest number
  have representable : IsRepresentable (number.toInt : Rat) := by
    obtain ⟨magnitude, same | same⟩ := Int.eq_nat_or_neg number.toInt
    · rw [same, Int.natAbs_natCast] at small
      rw [same]
      exact_mod_cast isRepresentable_natCast small
    · rw [same, Int.natAbs_neg, Int.natAbs_natCast] at small
      rw [same]
      exact_mod_cast (isRepresentable_natCast small).neg
  rw [has, near.eq_of_representable representable]

/-- The zeros are the numbers that stand for zero. -/
theorem isZero_iff (number : Binary64) : number.isZero = true ↔ number.toRat? = some 0 := by
  cases number with
  | nan => exact ⟨nofun, nofun⟩
  | infinite negative => exact ⟨nofun, nofun⟩
  | finite negative significand exponent canonical =>
    have unit : (2 : Rat) ^ exponent ≠ 0 := zpow_ne_zero _ (by norm_num)
    cases negative <;> simp [isZero, toRat?, rational, unit]

/-- Only zero is rounded to zero: one and minus one are not changed, and the order is kept. -/
theorem isZero_ofInt (number : Int64) : (ofInt number.toInt).isZero = true ↔ number.toInt = 0 := by
  rw [isZero_iff]
  constructor
  · intro none
    have one : (ofInt (1 : Int64).toInt).toRat? = some 1 := ofInt_exact (by decide)
    have minusOne : (ofInt (-1 : Int64).toInt).toRat? = some (-1) := ofInt_exact (by decide)
    have notPositive : ¬(1 : Int64).toInt ≤ number.toInt := fun le =>
      absurd (ofInt_mono le one none) (by norm_num)
    have notNegative : ¬number.toInt ≤ (-1 : Int64).toInt := fun le =>
      absurd (ofInt_mono le none minusOne) (by norm_num)
    have units : (1 : Int64).toInt = 1 ∧ (-1 : Int64).toInt = -1 := by decide
    omega
  · intro none
    rw [ofInt_exact (by rw [none]; decide), none]
    rfl

end WidgetAudit.Binary64
