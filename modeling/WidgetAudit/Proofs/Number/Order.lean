import Mathlib.Data.Option.NAry
import Mathlib.Order.Compare
import Mathlib.Order.WithBot
import WidgetAudit.Proofs.Number.Nearest
import WidgetAudit.Value

/-!
# The order of numbers

Every floating-point number but the one that is not a number has a place on the line of the rational
numbers with an infinity at each end, and floating-point numbers compare as their places do. A whole
number takes the place of the floating-point number nearest to it, so two whole numbers may share
one. Among themselves whole numbers are compared exactly, and all others by their places.

That this mixture is still one order is due to rounding, which may make two whole numbers share a
place but never exchanges them: an order between places is an order between the numbers.
-/

namespace WidgetAudit

namespace Binary64

/-- Where a number lies between the two infinities. -/
def place? : Binary64 → Option (WithBot (WithTop Rat))
  | .nan => none
  | .infinite negative => some (if negative then ⊥ else (⊤ : WithTop Rat))
  | .finite negative significand exponent _ =>
    some (WithBot.some (WithTop.some (rational negative significand exponent)))

/-- A finite number lies at the rational number that it stands for. -/
theorem place?_of_toRat? {number : Binary64} {value : Rat} (has : number.toRat? = some value) :
    number.place? = some (value : WithTop Rat) := by
  cases number with
  | nan => cases has
  | infinite negative => cases has
  | finite negative significand exponent canonical =>
    cases has
    rfl

/-- Only the value that is not a number has no place. -/
theorem place?_eq_none_iff {number : Binary64} : number.place? = none ↔ number = .nan := by
  cases number <;> simp [place?]

/-- Finite numbers compare as the rational numbers that they stand for. -/
theorem order?_of_toRat? {first second : Binary64} {value value' : Rat}
    (has : first.toRat? = some value) (has' : second.toRat? = some value') :
    first.order? second = some (cmp value value') := by
  cases first with
  | nan => cases has
  | infinite negative => cases has
  | finite negative significand exponent canonical =>
    cases second with
    | nan => cases has'
    | infinite negative => cases has'
    | finite negative' significand' exponent' canonical' =>
      cases has
      cases has'
      unfold order? cmp cmpUsing
      grind

/-- Numbers compare as their places do. -/
theorem order?_eq_map₂ (first second : Binary64) :
    first.order? second = Option.map₂ cmp first.place? second.place? := by
  cases first with
  | nan => rfl
  | infinite negative =>
    cases second with
    | nan => rfl
    | infinite negative' => cases negative <;> cases negative' <;> rfl
    | finite negative' significand' exponent' canonical' => cases negative <;> rfl
  | finite negative significand exponent canonical =>
    cases second with
    | nan => rfl
    | infinite negative' => cases negative' <;> rfl
    | finite negative' significand' exponent' canonical' =>
      have inside : StrictMono fun value : Rat => ((value : WithTop Rat) : WithBot (WithTop Rat)) :=
        WithBot.coe_strictMono.comp WithTop.coe_strictMono
      rw [order?_of_toRat? rfl rfl]
      exact congrArg some (inside.cmp_map_eq _ _).symm

/-- Numbers are equal if they lie at one place. -/
theorem equals_iff (first second : Binary64) :
    first.equals second = true ↔ ∃ place, first.place? = some place ∧ second.place? = some place := by
  rw [equals, order?_eq_map₂, beq_iff_eq, Option.map₂_eq_some_iff]
  constructor
  · rintro ⟨place, place', lies, lies', same⟩
    obtain rfl := (cmp_eq_eq_iff _ _).mp same
    exact ⟨place, lies, lies'⟩
  · rintro ⟨place, lies, lies'⟩
    exact ⟨place, place, lies, lies', cmp_self_eq_eq place⟩

/-- Which of two numbers comes first does not matter for their equality. -/
theorem equals_comm (first second : Binary64) : first.equals second = second.equals first := by
  rw [Bool.eq_iff_iff, equals_iff, equals_iff]
  exact exists_congr fun place => and_comm

/-- Only the value that is not a number differs from itself. -/
theorem equals_self_iff (number : Binary64) : number.equals number = true ↔ number ≠ .nan := by
  have somewhere : (∃ place, number.place? = some place) ↔ number ≠ .nan := by
    rw [← Option.ne_none_iff_exists']
    exact place?_eq_none_iff.not
  rw [equals_iff, ← somewhere]
  exact exists_congr fun place => and_self_iff

end Binary64

namespace Numeric

/-- Where a number lies; a whole number is first made a floating-point one. -/
def place? (number : Numeric) : Option (WithBot (WithTop Rat)) := number.toBinary64.place?

/-- How two numbers compare: whole numbers exactly, others by their places. -/
def order? : Numeric → Numeric → Option Ordering
  | .int first, .int second => some (cmp first.toInt second.toInt)
  | first, second => Option.map₂ cmp first.place? second.place?

/-- Only the value that is not a number has no place. -/
theorem place?_eq_none_iff {number : Numeric} : number.place? = none ↔ number = .float .nan := by
  cases number with
  | int number =>
    obtain ⟨rounded, has, _⟩ := Binary64.ofInt_nearest number
    have found : (Numeric.int number).place? = some (rounded : WithTop Rat) :=
      Binary64.place?_of_toRat? has
    simp [found]
  | float number => simp [place?, toBinary64, Binary64.place?_eq_none_iff]

/-- Only the value that is not a number compares with nothing. -/
theorem order?_eq_none_iff {first second : Numeric} :
    first.order? second = none ↔ first = .float .nan ∨ second = .float .nan := by
  have byPlace : Option.map₂ cmp first.place? second.place? = none ↔
      first = .float .nan ∨ second = .float .nan := by
    rw [Option.map₂_eq_none_iff, place?_eq_none_iff, place?_eq_none_iff]
  cases first with
  | int first =>
    cases second with
    | int second => exact iff_of_false (Option.some_ne_none _) (by simp)
    | float second => exact byPlace
  | float first => cases second <;> exact byPlace

/-- With the sides exchanged the order is the opposite one. -/
theorem order?_swap (first second : Numeric) :
    second.order? first = (first.order? second).map Ordering.swap := by
  have byPlace : Option.map₂ cmp second.place? first.place? =
      (Option.map₂ cmp first.place? second.place?).map Ordering.swap := by
    cases first.place? with
    | none => cases second.place? <;> rfl
    | some place =>
      cases second.place? with
      | none => rfl
      | some place' => exact congrArg some (cmp_swap place place').symm
  cases first with
  | int first =>
    cases second with
    | int second => exact congrArg some (cmp_swap first.toInt second.toInt).symm
    | float second => exact byPlace
  | float first => cases second <;> exact byPlace

/-! ### One order -/

/-- Whether a number is whole by its kind; floating-point numbers are not. -/
def isWhole : Numeric → Bool
  | .int _ => true
  | .float _ => false

/-- What is whole by its kind is a whole number of 64 bits. -/
theorem exists_int {number : Numeric} (whole : number.isWhole = true) :
    ∃ own, number = .int own := by
  cases number with
  | int own => exact ⟨own, rfl⟩
  | float own => cases whole

section Places

variable {first second : Numeric} {place place' : WithBot (WithTop Rat)}

/-- Unless two numbers are both whole, their order is the order of their places. -/
theorem order?_of_mixed (mixed : ¬(first.isWhole = true ∧ second.isWhole = true))
    (lies : first.place? = some place) (lies' : second.place? = some place') :
    first.order? second = some (cmp place place') := by
  have byPlace : Option.map₂ cmp first.place? second.place? = some (cmp place place') := by
    rw [lies, lies', Option.map₂_some_some]
  cases first with
  | int number =>
    cases second with
    | int number' => exact absurd ⟨rfl, rfl⟩ mixed
    | float number' => exact byPlace
  | float number => cases second <;> exact byPlace

/-- What is compared has a place. -/
theorem exists_place {order : Ordering} (compared : first.order? second = some order) :
    ∃ place place', first.place? = some place ∧ second.place? = some place' := by
  have present : first.order? second ≠ none := compared ▸ Option.some_ne_none order
  rw [ne_eq, order?_eq_none_iff, not_or, ← place?_eq_none_iff, ← place?_eq_none_iff] at present
  obtain ⟨place, lies⟩ := Option.ne_none_iff_exists'.mp present.1
  obtain ⟨place', lies'⟩ := Option.ne_none_iff_exists'.mp present.2
  exact ⟨place, place', lies, lies'⟩

/-- Whole numbers lie in their order, although two of them may share a place. -/
theorem place_le_of_int {low high : Int64} (le : low.toInt ≤ high.toInt)
    (lies : (int low).place? = some place) (lies' : (int high).place? = some place') :
    place ≤ place' := by
  obtain ⟨rounded, has, _⟩ := Binary64.ofInt_nearest low
  obtain ⟨rounded', has', _⟩ := Binary64.ofInt_nearest high
  obtain rfl := Option.some.inj ((Binary64.place?_of_toRat? has).symm.trans lies)
  obtain rfl := Option.some.inj ((Binary64.place?_of_toRat? has').symm.trans lies')
  exact WithBot.coe_le_coe.mpr (WithTop.coe_le_coe.mpr (Binary64.ofInt_mono le has has'))

/-- No number lies above a larger one. -/
theorem place_le (less : first.order? second = some .lt) (lies : first.place? = some place)
    (lies' : second.place? = some place') : place ≤ place' := by
  by_cases whole : first.isWhole = true ∧ second.isWhole = true
  · obtain ⟨low, rfl⟩ := exists_int whole.1
    obtain ⟨high, rfl⟩ := exists_int whole.2
    have below := (cmp_eq_lt_iff _ _).mp (Option.some.inj less)
    exact place_le_of_int below.le lies lies'
  · rw [order?_of_mixed whole lies lies'] at less
    exact ((cmp_eq_lt_iff _ _).mp (Option.some.inj less)).le

/-- A number is smaller than every one that lies above it. -/
theorem order?_of_place_lt (lies : first.place? = some place) (lies' : second.place? = some place')
    (below : place < place') : first.order? second = some .lt := by
  by_cases whole : first.isWhole = true ∧ second.isWhole = true
  · obtain ⟨low, rfl⟩ := exists_int whole.1
    obtain ⟨high, rfl⟩ := exists_int whole.2
    have less : low.toInt < high.toInt := by
      by_contra wrong
      exact absurd below (not_lt.mpr (place_le_of_int (not_lt.mp wrong) lies' lies))
    exact congrArg some ((cmp_eq_lt_iff _ _).mpr less)
  · rw [order?_of_mixed whole lies lies', (cmp_eq_lt_iff _ _).mpr below]

end Places

/-- Of three numbers in a row the first is smaller than the last. Either all of them are whole, or
one of the two steps leads to another place, and no step leads back. -/
theorem order?_trans {first second third : Numeric} (less : first.order? second = some .lt)
    (less' : second.order? third = some .lt) : first.order? third = some .lt := by
  obtain ⟨low, middle, liesLow, liesMiddle⟩ := exists_place less
  obtain ⟨_, high, _, liesHigh⟩ := exists_place less'
  have le : low ≤ middle := place_le less liesLow liesMiddle
  have le' : middle ≤ high := place_le less' liesMiddle liesHigh
  by_cases whole : first.isWhole = true ∧ second.isWhole = true
  · by_cases whole' : second.isWhole = true ∧ third.isWhole = true
    · obtain ⟨first, rfl⟩ := exists_int whole.1
      obtain ⟨second, rfl⟩ := exists_int whole.2
      obtain ⟨third, rfl⟩ := exists_int whole'.2
      have below := (cmp_eq_lt_iff _ _).mp (Option.some.inj less)
      have below' := (cmp_eq_lt_iff _ _).mp (Option.some.inj less')
      exact congrArg some ((cmp_eq_lt_iff _ _).mpr (below.trans below'))
    · rw [order?_of_mixed whole' liesMiddle liesHigh] at less'
      exact order?_of_place_lt liesLow liesHigh
        (le.trans_lt ((cmp_eq_lt_iff _ _).mp (Option.some.inj less')))
  · rw [order?_of_mixed whole liesLow liesMiddle] at less
    exact order?_of_place_lt liesLow liesHigh
      (((cmp_eq_lt_iff _ _).mp (Option.some.inj less)).trans_le le')

end Numeric

end WidgetAudit
