import WidgetAudit.Pattern.GapEngine
import WidgetAudit.Proofs.Evaluation.Faults
import WidgetAudit.Proofs.Number.Operations
import WidgetAudit.Widget.Tree

/-!
# Arithmetic

Whole numbers are calculated with exactly as long as 64 bits hold the result, whether an operand is
such a number or a text that writes one. Nothing wraps around: a result that does not fit is the one
that floating-point arithmetic gives for the two rounded operands, which is as near to the exact
result for these as any floating-point number.

A quotient is always a floating-point number. Whether the divisor is zero is asked of the rounded
divisor, which makes no difference, because only zero is rounded to zero. And it is asked last: what
has no number is refused first, whatever the other operand is.
-/

namespace WidgetAudit

/-- The rational number that a number stands for, if it is finite. -/
def Numeric.toRat? : Numeric → Option Rat
  | .int number => some number.toInt
  | .float number => number.toRat?

/-- A number is rounded to zero only if it is zero. -/
theorem Numeric.isZero_toBinary64 (number : Numeric) :
    number.toBinary64.isZero = true ↔ number.toRat? = some 0 := by
  cases number with
  | int number => simp [toBinary64, toRat?, Binary64.isZero_ofInt]
  | float number => exact Binary64.isZero_iff number

/-- A quotient of numbers is a nearest one to the exact quotient, if the divisor is not zero and the
quotient stays away from the ends of the format. -/
theorem Numeric.div_rounds {first second : Numeric} (nonzero : second.toRat? ≠ some 0)
    {left right : Rat} (has : first.toBinary64.toRat? = some left)
    (has' : second.toBinary64.toRat? = some right) (bounded : |left / right| < 2 ^ (1023 : Int)) :
    (first.toBinary64.div second.toBinary64).Rounds (left / right) := by
  apply Binary64.div_rounds has has' _ bounded
  rintro rfl
  exact nonzero (second.isZero_toBinary64.mp ((Binary64.isZero_iff _).mpr has'))

/-- The arithmetic operators are none of those that may leave their second operand alone. -/
theorem BinaryOperator.ne_logical {operator : BinaryOperator}
    (isArithmetic : operator.isArithmetic = true) : operator ≠ .and ∧ operator ≠ .or := by
  constructor
  · rintro rfl
    cases isArithmetic
  · rintro rfl
    cases isArithmetic

namespace Value

/-- A value holds a whole number of 64 bits: it is that number, or a text that writes it between
blanks. -/
inductive HoldsInt : Value → Int64 → Prop
  | int (number : Int64) : HoldsInt (.int number) number
  | string {text : String} {number : Int64}
      (writes : Numeral.int64? (Text.trim text.toList) = some number) :
      HoldsInt (.string text) number

/-- Arithmetic sees a whole number in the values that hold one. -/
theorem holdsInt_iff {value : Value} {number : Int64} :
    value.HoldsInt number ↔ value.numeric? = some (.int number) := by
  constructor
  · intro holds
    cases holds with
    | int => rfl
    | string writes => simp [numeric?, Numeric.ofText?, writes]
  · intro seen
    cases value with
    | int own =>
      cases seen
      exact .int number
    | string text =>
      simp only [numeric?, Numeric.ofText?] at seen
      split at seen
      · rename_i own writes
        cases seen
        exact .string writes
      · simp at seen
    | null => cases seen
    | bool truth => cases seen
    | float own => cases seen

/-- An outcome is a result as a whole number if 64 bits hold that, and otherwise a floating-point
number in its place. -/
structure IsExactOr (exact : Int) (rounded : Binary64) (outcome : Outcome Value) : Prop where
  fits : -2 ^ 63 ≤ exact → exact < 2 ^ 63 →
    ∃ result : Int64, result.toInt = exact ∧ outcome = .ok (.int result)
  beyond : exact < -2 ^ 63 ∨ 2 ^ 63 ≤ exact → outcome = .ok (.float rounded)

/-- A result that is tried as a whole number first is exact, or the other one. -/
theorem IsExactOr.of_int64? {exact : Int} {rounded : Binary64} {outcome : Outcome Value}
    (found : ∀ result, int64? exact = some result → outcome = .ok (.int result))
    (missing : int64? exact = none → outcome = .ok (.float rounded)) :
    IsExactOr exact rounded outcome := by
  have least : Int64.minValue.toInt = -2 ^ 63 := by decide
  have greatest : Int64.maxValue.toInt = 2 ^ 63 - 1 := by decide
  refine ⟨fun low high => ?_, fun beyond => missing (int64?_eq_none_iff.mpr (by omega))⟩
  cases tried : int64? exact with
  | some result => exact ⟨result, toInt_of_int64? tried, found result tried⟩
  | none =>
    have beyond := int64?_eq_none_iff.mp tried
    omega

section Operations

variable {left right : Value} {first second : Int64}

/-- A sum, difference or product of whole numbers is exact, or the one of the rounded numbers. -/
theorem arithmetic_isExactOr (operator : BinaryOperator) (exact : Int → Int → Int)
    (rounded : Binary64 → Binary64 → Binary64) (holds : left.HoldsInt first)
    (holds' : right.HoldsInt second) :
    IsExactOr (exact first.toInt second.toInt)
      (rounded (.ofInt first.toInt) (.ofInt second.toInt))
      (arithmetic operator exact rounded left right) := by
  refine .of_int64? (fun result found => ?_) (fun missing => ?_)
  · simp only [arithmetic, holdsInt_iff.mp holds, holdsInt_iff.mp holds', found]
  · simp only [arithmetic, holdsInt_iff.mp holds, holdsInt_iff.mp holds', missing,
      Numeric.toBinary64]

/-- A negated whole number is exact, or the negated rounded number. -/
theorem negated_isExactOr (holds : left.HoldsInt first) :
    IsExactOr (-first.toInt) (Binary64.ofInt first.toInt).neg left.negated := by
  refine .of_int64? (fun result found => ?_) (fun missing => ?_)
  · simp only [negated, holdsInt_iff.mp holds, found]
  · simp only [negated, holdsInt_iff.mp holds, missing]

end Operations

/-- A quotient of two numbers fails exactly if the divisor is zero. -/
theorem quotient_of_numeric? {left right : Value} {first second : Numeric}
    (holds : left.numeric? = some first) (holds' : right.numeric? = some second) :
    left.quotient right =
      if second.toRat? = some 0 then .error .divisionByZero
      else .ok (.float (first.toBinary64.div second.toBinary64)) := by
  rw [quotient, holds, holds']
  exact if_congr second.isZero_toBinary64 rfl rfl

variable [RegexEngine]

/-- An operand without a number is refused, whatever the other one is. -/
theorem combine_of_none {operator : BinaryOperator} {left right : Value}
    (isArithmetic : operator.isArithmetic = true)
    (missing : left.numeric? = none ∨ right.numeric? = none) :
    left.combine right operator = .error (.cannotApply operator left.kind right.kind) := by
  have refused (exact : Int → Int → Int) (rounded : Binary64 → Binary64 → Binary64) :
      arithmetic operator exact rounded left right =
        .error (.cannotApply operator left.kind right.kind) := by
    unfold arithmetic
    rcases missing with missing | missing <;> rw [missing]
    cases left.numeric? <;> rfl
  cases operator with
  | add => exact refused _ _
  | subtract => exact refused _ _
  | multiply => exact refused _ _
  | divide =>
    simp only [combine, quotient]
    rcases missing with missing | missing <;> rw [missing]
    cases left.numeric? <;> rfl
  | _ => cases isArithmetic

end Value

namespace Expr

variable {ν : Type} {host : Host ν} {limit : Option Nat} {depth : Nat} {node : ν}

variable [RegexEngine]

/-- A minus sign negates the value of its operand. -/
theorem evaluateAt_negate {operand : Expr} {value : Value}
    (operandValue : operand.evaluateAt host limit depth node = .ok value) :
    (unary .negate operand).evaluateAt host limit depth node = value.negated := by
  rw [evaluateAt, operandValue]
  rfl

end Expr

section AnyEngine

variable [RegexEngine]

/-- Arithmetic of whole numbers is exact and never wraps around. Whatever two operands are worth: if
both hold whole numbers, their sum, difference and product are exact as long as 64 bits hold them,
and otherwise what floating-point arithmetic gives for the rounded operands, which is a nearest
number to the exact result for these. The opposite of a whole number is one too, apart from that of
the least number, which is a floating-point number. A quotient of two numbers is a floating-point
number, nearest to the exact quotient away from the ends of the format, unless the divisor is zero,
in whatever way it is written; then, and only then, there is none. An operand that holds no number
is refused by all operators, also if the divisor is zero.

Proof: the operators look at the numbers in the values, only zero is rounded to zero, and each
operation of floating-point arithmetic rounds once. -/
theorem whole_arithmetic_is_exact {ν : Type} {host : Host ν} {limit : Option Nat} {depth : Nat}
    {node : ν} {left right : Expr} {first second : Value}
    (leftValue : left.evaluateAt host limit depth node = .ok first)
    (rightValue : right.evaluateAt host limit depth node = .ok second) :
    let outcome (operator : BinaryOperator) :=
      (Expr.binary operator left right).evaluateAt host limit depth node
    let opposite := (Expr.unary .negate left).evaluateAt host limit depth node
    (∀ a b, first.HoldsInt a → second.HoldsInt b →
      Value.IsExactOr (a.toInt + b.toInt) (.add (.ofInt a.toInt) (.ofInt b.toInt))
          (outcome .add) ∧
        Value.IsExactOr (a.toInt - b.toInt) (.sub (.ofInt a.toInt) (.ofInt b.toInt))
          (outcome .subtract) ∧
        Value.IsExactOr (a.toInt * b.toInt) (.mul (.ofInt a.toInt) (.ofInt b.toInt))
          (outcome .multiply) ∧
        ∃ x y, (Binary64.ofInt a.toInt).toRat? = some x ∧ Binary64.IsNearest x a.toInt ∧
          (Binary64.ofInt b.toInt).toRat? = some y ∧ Binary64.IsNearest y b.toInt ∧
          (Binary64.add (.ofInt a.toInt) (.ofInt b.toInt)).Rounds (x + y) ∧
          (Binary64.sub (.ofInt a.toInt) (.ofInt b.toInt)).Rounds (x - y) ∧
          (Binary64.mul (.ofInt a.toInt) (.ofInt b.toInt)).Rounds (x * y)) ∧
    (∀ a, first.HoldsInt a →
      (a ≠ Int64.minValue →
        ∃ result : Int64, result.toInt = -a.toInt ∧ opposite = .ok (.int result)) ∧
      (a = Int64.minValue →
        ∃ result : Binary64, result.toRat? = some (2 ^ 63) ∧ opposite = .ok (.float result))) ∧
    (∀ x y, first.numeric? = some x → second.numeric? = some y →
      (y.toRat? = some 0 → outcome .divide = .error .divisionByZero) ∧
      (y.toRat? ≠ some 0 →
        outcome .divide = .ok (.float (x.toBinary64.div y.toBinary64)) ∧
        ∀ u v, x.toBinary64.toRat? = some u → y.toBinary64.toRat? = some v →
          |u / v| < 2 ^ (1023 : Int) → (x.toBinary64.div y.toBinary64).Rounds (u / v))) ∧
    (first.numeric? = none ∨ second.numeric? = none →
      ∀ operator, operator.isArithmetic = true →
        outcome operator = .error (.cannotApply operator first.kind second.kind)) ∧
    (first.numeric? = none → opposite = .error (.cannotNegate first.kind)) := by
  intro outcome opposite
  have combined {operator : BinaryOperator} (noAnd : operator ≠ .and) (noOr : operator ≠ .or) :
      outcome operator = first.combine second operator :=
    Expr.evaluateAt_operands noAnd noOr leftValue rightValue
  have negated : opposite = first.negated := Expr.evaluateAt_negate leftValue
  refine ⟨?_, ?_, ?_, ?_, ?_⟩
  · intro a b holds holds'
    rw [combined (by decide) (by decide), combined (by decide) (by decide),
      combined (by decide) (by decide)]
    obtain ⟨x, has, near⟩ := Binary64.ofInt_nearest a
    obtain ⟨y, has', near'⟩ := Binary64.ofInt_nearest b
    exact ⟨Value.arithmetic_isExactOr .add (· + ·) .add holds holds',
      Value.arithmetic_isExactOr .subtract (· - ·) .sub holds holds',
      Value.arithmetic_isExactOr .multiply (· * ·) .mul holds holds',
      x, y, has, near, has', near', Binary64.ofInt_rounds has has'⟩
  · intro a holds
    have exact := Value.negated_isExactOr holds
    rw [← negated] at exact
    constructor
    · intro noLeast
      have opposed := toInt_neg_of_ne_least noLeast
      exact exact.fits (opposed ▸ Int64.le_toInt (-a)) (opposed ▸ Int64.toInt_lt (-a))
    · rintro rfl
      exact ⟨_, by decide +kernel, exact.beyond (.inr (by decide))⟩
  · intro x y holds holds'
    rw [combined (by decide) (by decide)]
    have divided := Value.quotient_of_numeric? holds holds'
    constructor
    · intro zero
      exact divided.trans (if_pos zero)
    · intro nonzero
      exact ⟨divided.trans (if_neg nonzero), fun u v => Numeric.div_rounds nonzero⟩
  · intro missing operator isArithmetic
    obtain ⟨noAnd, noOr⟩ := BinaryOperator.ne_logical isArithmetic
    rw [combined noAnd noOr, Value.combine_of_none isArithmetic missing]
  · intro missing
    rw [negated, Value.negated, missing]

end AnyEngine

/-- The largest whole number and another one, both written in texts. Their sum is a floating-point
number, and not the one that the largest number is rounded to; their difference is a whole one. -/
theorem whole_arithmetic_is_exact_texts :
    let host := (WidgetTree.ofNested (.node default [])).host
    let largest := Expr.literal (.string " 9223372036854775807 ")
    let step := Expr.literal (.string "+2048")
    (Expr.binary .add largest step).evaluateAt host none 0 0 =
        .ok (.float (.finite false (2 ^ 52 + 1) 11 (by decide))) ∧
      (Expr.binary .subtract largest step).evaluateAt host none 0 0 =
        .ok (.int 9223372036854773759) := by
  intro host largest step
  have holds : (Value.string " 9223372036854775807 ").HoldsInt 9223372036854775807 :=
    .string (by decide +kernel)
  have holds' : (Value.string "+2048").HoldsInt 2048 := .string (by decide +kernel)
  have largestValue : largest.evaluateAt host none 0 0 =
      .ok (.string " 9223372036854775807 ") := rfl
  have stepValue : step.evaluateAt host none 0 0 = .ok (.string "+2048") := rfl
  obtain ⟨results, -⟩ := whole_arithmetic_is_exact largestValue stepValue
  obtain ⟨sum, difference, -⟩ := results _ _ holds holds'
  obtain ⟨result, exact, subtracted⟩ := difference.fits (by decide) (by decide)
  have same : result = 9223372036854773759 := Int64.toInt_inj.mp exact
  exact ⟨(sum.beyond (.inr (by decide))).trans (by decide +kernel), same ▸ subtracted⟩

end WidgetAudit
