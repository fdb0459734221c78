import Mathlib.Tactic.NormNum
import WidgetAudit.Expr.Written
import WidgetAudit.Proofs.Number.Rounding

/-!
# Decimal text reads back

The text of a positive floating-point number is made of the digits of a decimal number
that rounds to it. Every grid is left with a decimal that has been rounded and compared,
and where no grid has one, the exact decimal form is taken, which rounds to the number
because the format has it. Reading the digits gives the decimal back, so rounding it gives
the number back.

A reader of numerals cuts exponents off far outside of the format. The decimals of a text
stay within: on the grids because of where the search starts, and in exact form because
the coefficient grows with the number of places.
-/

namespace WidgetAudit

namespace Numeral

/-- The value of a row of digits followed by another one. -/
theorem natural_append (front back : List Char) :
    natural (front ++ back) = 10 ^ back.length * natural front + natural back := by
  have appended : natural (front ++ back) = Nat.ofDigitChars 10 back (natural front) :=
    List.foldl_append
  rw [appended, Nat.ofDigitChars_eq_ofDigitChars_zero]
  rfl

/-- Zeros have no value of their own. -/
theorem natural_zeros (count : Nat) : natural (List.replicate count '0') = 0 := by
  have same : natural (List.replicate count '0') =
      Nat.ofDigitChars 10 (List.replicate count '0') 0 := rfl
  rw [same, Nat.ofDigitChars_replicate_zero, Nat.mul_zero]

/-- The decimal digits of a number have the value of that number. -/
theorem natural_toDigits (value : Nat) : natural (Nat.toDigits 10 value) = value :=
  Nat.ofDigitChars_ten_toDigits

end Numeral

namespace Shortest

open Binary64

/-! ### The chosen decimal -/

/-- A decimal that the search returns has been found to round to the number. -/
theorem onGrid?_rounds {tie : Tie} {target : Binary64} {magnitude : Rat} {exponent : Int}
    {decimal : Decimal} (found : onGrid? tie target magnitude exponent = some decimal) :
    ofRat decimal.toRat = target ∧ decimal.exponent = exponent := by
  unfold onGrid? at found
  grind

/-- The search returns a decimal that rounds to the number, on one of the grids that it
may try. -/
theorem fromGrid?_rounds {tie : Tie} {target : Binary64} {magnitude : Rat} (grids : Nat)
    {exponent : Int} {decimal : Decimal}
    (found : fromGrid? tie target magnitude grids exponent = some decimal) :
    ofRat decimal.toRat = target ∧ exponent - grids < decimal.exponent := by
  induction grids generalizing exponent with
  | zero => simp [fromGrid?] at found
  | succ grids inductionHypothesis =>
    unfold fromGrid? at found
    split at found
    · rename_i hit
      obtain ⟨rounds, sameExponent⟩ := onGrid?_rounds hit
      cases found
      refine ⟨rounds, ?_⟩
      omega
    · obtain ⟨rounds, inRange⟩ := inductionHypothesis found
      refine ⟨rounds, ?_⟩
      omega

/-- The exact decimal form of a number is that number: a power of two below one is a power
of five over a power of ten. -/
theorem exact_toRat (significand : Nat) (exponent : Int) :
    (exact significand exponent).toRat = rational false significand exponent := by
  unfold exact rational Decimal.toRat
  split
  · rename_i whole
    obtain ⟨power, rfl⟩ := Int.eq_ofNat_of_zero_le whole
    simp
  · rename_i fractional
    obtain ⟨power, rfl⟩ : ∃ power : Nat, exponent = -(power : Int) :=
      ⟨(-exponent).toNat, by omega⟩
    have ten : (10 : Rat) ^ power = 2 ^ power * 5 ^ power := by
      rw [← mul_pow]
      norm_num
    simp only [Int.neg_neg, Int.toNat_natCast, Nat.pow_eq, Bool.false_eq_true, if_false, one_mul,
      zpow_neg, zpow_natCast, ten]
    push_cast
    field_simp

/-- A decimal is within the reach of a reader of numerals if it has few places, or a
coefficient with about as many digits. -/
def Readable (decimal : Decimal) : Prop :=
  -400 ≤ decimal.exponent ∨ (-decimal.exponent).toNat ≤ decimal.coefficient.log2

/-- The exact form of a number of the format is within reach. -/
theorem exact_readable {significand : Nat} {exponent : Int} (nonzero : significand ≠ 0) :
    Readable (exact significand exponent) := by
  unfold exact Readable
  split
  · exact .inl (by simp)
  · refine .inr ?_
    dsimp only
    set places := (-exponent).toNat with counted
    have positive : significand * 5 ^ places ≠ 0 := by positivity
    have bits : 2 ^ places ≤ significand * 5 ^ places := by
      calc 2 ^ places ≤ 5 ^ places := Nat.pow_le_pow_left (by decide) places
        _ ≤ significand * 5 ^ places := Nat.le_mul_of_pos_left _ (Nat.pos_of_ne_zero nonzero)
    exact (Nat.le_log2 positive).mpr bits

/-- The chosen decimal rounds to the number that it is to stand for, and is within the
reach of a reader. The lowest grid that is tried lies a little below the least number. -/
theorem shortest_rounds (tie : Tie) {significand : Nat} {exponent : Int}
    (canonical : IsCanonical significand exponent) (nonzero : significand ≠ 0) :
    ofRat (shortest tie significand exponent canonical).toRat =
        .finite false significand exponent canonical ∧
      Readable (shortest tie significand exponent canonical) := by
  have positive := rational_positive nonzero exponent
  have lowest : -1074 ≤ leadingExponent (rational false significand exponent) := by
    refine le_leadingExponent positive ?_
    have powers : (2 : Rat) ^ (-1074 : Int) ≤ 2 ^ exponent :=
      zpow_le_zpow_right₀ (by norm_num) canonical.2.1
    have one : (1 : Rat) ≤ (significand : Rat) := by
      exact_mod_cast Nat.one_le_iff_ne_zero.mpr nonzero
    simp only [rational, Bool.false_eq_true, if_false, one_mul]
    exact le_trans powers (le_mul_of_one_le_left (zpow_pos (by norm_num) _).le one)
  unfold shortest
  dsimp only
  cases searched : fromGrid? tie (.finite false significand exponent canonical)
      (rational false significand exponent) 24
      (((leadingExponent (rational false significand exponent) + 2) * 30103).fdiv 100000 + 1) with
  | none =>
    rw [Option.getD_none, exact_toRat, ofRat_of_nonneg positive.le]
    exact ⟨round_rational canonical nonzero false, exact_readable nonzero⟩
  | some decimal =>
    obtain ⟨rounds, inRange⟩ := fromGrid?_rounds 24 searched
    refine ⟨rounds, .inl ?_⟩
    rw [Option.getD_some]
    rw [Int.fdiv_eq_ediv_of_nonneg _ (by decide)] at inRange
    omega

/-! ### Its digits -/

/-- Rows of digits before and behind a point that a reader of numerals takes for a number. -/
structure Writes (whole places : List Char) (number : Binary64) : Prop where
  whole_nonempty : whole ≠ []
  whole_digits : ∀ digit ∈ whole, digit.isDigit = true
  places_nonempty : places ≠ []
  places_digits : ∀ digit ∈ places, digit.isDigit = true
  reads : Numeral.scaled false (Numeral.natural (whole ++ places)) (-places.length) = number

/-- A reader of numerals rounds the decimal that it has read, if it is within reach. -/
theorem scaled_eq_round {coefficient places : Nat}
    (reachable : places ≤ 400 ∨ places ≤ coefficient.log2) :
    Numeral.scaled false coefficient (-(places : Int)) =
      round false (coefficient * (10 : Rat) ^ (-(places : Int))) := by
  unfold Numeral.scaled
  by_cases none : coefficient = 0
  · simp [none, Binary64.round]
  · rw [if_neg none, if_neg (by omega), if_neg (by omega)]

/-- The value of a decimal is not negative. -/
theorem Decimal.toRat_nonneg (decimal : Decimal) : 0 ≤ decimal.toRat :=
  mul_nonneg (by exact_mod_cast Nat.zero_le _) (zpow_pos (by norm_num) _).le

/-- Every character of a row of decimal digits is a digit. -/
theorem isDigit_of_mem_toDigits {value : Nat} : ∀ digit ∈ Nat.toDigits 10 value,
    digit.isDigit = true :=
  fun _ member => Nat.isDigit_of_mem_toDigits (by decide) (by decide) member

/-- Zeros are digits. -/
theorem isDigit_of_mem_zeros {count : Nat} : ∀ digit ∈ List.replicate count '0',
    digit.isDigit = true := by
  intro digit member
  rw [List.eq_of_mem_replicate member]
  rfl

/-- A decimal with places is written with a point that has digits on both sides. Zeros in
front fill the row up, so that a digit is left before the point. -/
theorem positional_fraction {decimal : Decimal} (fractional : decimal.exponent < 0)
    (readable : Readable decimal) :
    ∃ whole places, positional decimal = whole ++ '.' :: places ∧
      Writes whole places (ofRat decimal.toRat) := by
  obtain ⟨count, positive, counted⟩ : ∃ count : Nat, 0 < count ∧
      decimal.exponent = -(count : Int) := ⟨(-decimal.exponent).toNat, by omega, by omega⟩
  have places : (-decimal.exponent).toNat = count := by omega
  set padded := List.replicate (count + 1 - (Nat.toDigits 10 decimal.coefficient).length) '0' ++
    Nat.toDigits 10 decimal.coefficient with filled
  have length : count + 1 ≤ padded.length := by
    rw [filled, List.length_append, List.length_replicate]
    omega
  have digits : ∀ digit ∈ padded, digit.isDigit = true := by
    intro digit member
    rcases List.mem_append.mp member with zero | digit
    · exact isDigit_of_mem_zeros _ zero
    · exact isDigit_of_mem_toDigits _ digit
  have value : Numeral.natural padded = decimal.coefficient := by
    rw [filled, Numeral.natural_append, Numeral.natural_zeros, Numeral.natural_toDigits,
      Nat.mul_zero, Nat.zero_add]
  have behind : (padded.drop (padded.length - count)).length = count := by
    rw [List.length_drop]
    omega
  refine ⟨padded.take (padded.length - count), padded.drop (padded.length - count), ?_, ?_⟩
  · simp only [positional, not_le.mpr fractional, if_false, places, ← filled]
  · refine ⟨?_, fun digit member => digits digit (List.mem_of_mem_take member), ?_,
      fun digit member => digits digit (List.mem_of_mem_drop member), ?_⟩
    · intro empty
      have none := congrArg List.length empty
      rw [List.length_take, List.length_nil] at none
      omega
    · intro empty
      rw [empty, List.length_nil] at behind
      omega
    · have reachable : count ≤ 400 ∨ count ≤ decimal.coefficient.log2 := by
        rcases readable with few | many
        · exact .inl (by omega)
        · exact .inr (by omega)
      rw [List.take_append_drop, value, behind, scaled_eq_round reachable,
        ofRat_of_nonneg decimal.toRat_nonneg, Decimal.toRat, counted]

/-- A decimal without places is written with digits only; a point and a zero behind them
leave its value as it is. -/
theorem positional_whole {decimal : Decimal} (whole : 0 ≤ decimal.exponent) :
    (∀ digit ∈ positional decimal, digit.isDigit = true) ∧
      Writes (positional decimal) ['0'] (ofRat decimal.toRat) := by
  obtain ⟨count, counted⟩ := Int.eq_ofNat_of_zero_le whole
  have form : positional decimal =
      Nat.toDigits 10 decimal.coefficient ++ List.replicate count '0' := by
    simp only [positional, if_pos whole]
    rw [counted, Int.toNat_natCast]
  have digits : ∀ digit ∈ positional decimal, digit.isDigit = true := by
    intro digit member
    rw [form] at member
    rcases List.mem_append.mp member with digit | zero
    · exact isDigit_of_mem_toDigits _ digit
    · exact isDigit_of_mem_zeros _ zero
  have value : Numeral.natural (positional decimal ++ ['0']) =
      10 * (10 ^ count * decimal.coefficient) := by
    rw [Numeral.natural_append, form, Numeral.natural_append, Numeral.natural_toDigits,
      Numeral.natural_zeros, List.length_replicate]
    rfl
  refine ⟨digits, ?_, digits, by simp, List.forall_mem_singleton.mpr (by decide), ?_⟩
  · rw [form]
    exact List.append_ne_nil_of_left_ne_nil Nat.toDigits_ne_nil _
  · have magnitude : ((10 * (10 ^ count * decimal.coefficient) : Nat) : Rat) *
        (10 : Rat) ^ (-((1 : Nat) : Int)) = decimal.toRat := by
      rw [Decimal.toRat, counted, zpow_natCast, zpow_neg, zpow_natCast]
      push_cast
      field_simp
    rw [value, List.length_singleton, scaled_eq_round (.inl (by decide)), magnitude,
      ofRat_of_nonneg decimal.toRat_nonneg]

end Shortest

open Shortest in
/-- A floating-point number that is not negative is written as digits, a point and digits,
which a reader of numerals takes for the same number. -/
theorem Value.written_float {significand : Nat} {exponent : Int}
    (canonical : IsCanonical significand exponent) :
    ∃ whole places,
      (Value.float (.finite false significand exponent canonical)).written =
        whole ++ '.' :: places ∧
      Writes whole places (.finite false significand exponent canonical) := by
  by_cases nonzero : significand = 0
  · subst nonzero
    have lowest : exponent = -1074 := canonical.2.2.2 (by decide)
    subst lowest
    refine ⟨['0'], ['0'], by simp [Value.written, Shortest.text, Binary64.isFinite], ?_⟩
    have zero : ∀ digit ∈ ['0'], digit.isDigit = true :=
      List.forall_mem_singleton.mpr (by decide)
    exact ⟨by simp, zero, by simp, zero, rfl⟩
  · obtain ⟨rounds, readable⟩ := shortest_rounds .greater canonical nonzero
    have text : Shortest.text (.finite false significand exponent canonical) =
        positional (shortest .greater significand exponent canonical) := by
      simp [Shortest.text, nonzero]
    by_cases whole : 0 ≤ (shortest .greater significand exponent canonical).exponent
    · obtain ⟨digits, writes⟩ := positional_whole whole
      rw [rounds] at writes
      have pointless : (positional (shortest .greater significand exponent canonical)).contains
          '.' = false := by
        rw [List.contains_eq_mem, decide_eq_false_iff_not]
        intro member
        exact absurd (digits '.' member) (by decide)
      refine ⟨_, ['0'], ?_, writes⟩
      simp only [Value.written, text, pointless, Binary64.isFinite, Bool.not_false,
        Bool.and_true, if_true]
    · obtain ⟨front, back, form, writes⟩ := positional_fraction (not_le.mp whole) readable
      rw [rounds] at writes
      refine ⟨front, back, ?_, writes⟩
      simp [Value.written, text, form, Binary64.isFinite]

end WidgetAudit
