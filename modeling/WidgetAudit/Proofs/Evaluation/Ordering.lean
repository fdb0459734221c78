import WidgetAudit.Pattern.GapEngine
import WidgetAudit.Proofs.Evaluation.Faults
import WidgetAudit.Proofs.Number.Order
import WidgetAudit.Widget.Tree

/-!
# Comparisons

The operators of order see the numbers in two values, whether these are whole numbers,
floating-point numbers or texts, and what has no number, or the one that is not a number, has no
order to anything. On all other values the operators make up one order. Equality of numbers is the
same comparison, although it is computed apart.

A whole number and a floating-point number are not compared as the rational numbers that they are.
The whole number is rounded first, so it is taken for equal to the floating-point number that it is
rounded to. That is the only error there is: every other floating-point number lies on the same side
of the whole number and of what it is rounded to.
-/

namespace WidgetAudit

/-- Whether an operator asks for the order of its operands. -/
def BinaryOperator.isOrdering : BinaryOperator → Bool
  | .less | .lessOrEqual | .greater | .greaterOrEqual => true
  | _ => false

namespace Value

/-- Whether a value can be compared: it holds a number, and not the one that is not a number. -/
def IsComparable (value : Value) : Prop :=
  ∃ number, value.numeric? = some number ∧ number ≠ .float .nan

/-- Whether a value is a number, and no text of one. -/
def isNumber : Value → Bool
  | .int _ | .float _ => true
  | _ => false

/-- Values compare as the numbers in them do. -/
theorem order?_of_numeric? {left right : Value} {first second : Numeric}
    (holds : left.numeric? = some first) (holds' : right.numeric? = some second) :
    left.order? right = first.order? second := by
  unfold Value.order?
  rw [holds, holds']
  cases first with
  | int number =>
    cases second with
    | int number' => exact congrArg some (cmp_eq_compare _ _).symm
    | float number' => exact Binary64.order?_eq_map₂ _ _
  | float number => exact Binary64.order?_eq_map₂ _ _

/-- Two values have an order if both can be compared. -/
theorem order?_eq_none_iff {left right : Value} :
    left.order? right = none ↔ ¬(left.IsComparable ∧ right.IsComparable) := by
  unfold IsComparable
  cases holds : left.numeric? with
  | none => simp [Value.order?, holds]
  | some first =>
    cases holds' : right.numeric? with
    | none => simp [Value.order?, holds, holds']
    | some second =>
      rw [order?_of_numeric? holds holds', Numeric.order?_eq_none_iff]
      simp [or_iff_not_imp_left]

/-- With the sides exchanged the order is the opposite one. -/
theorem order?_swap (left right : Value) :
    right.order? left = (left.order? right).map Ordering.swap := by
  cases holds : left.numeric? with
  | none => cases holds' : right.numeric? <;> simp [Value.order?, holds, holds']
  | some first =>
    cases holds' : right.numeric? with
    | none => simp [Value.order?, holds, holds']
    | some second =>
      rw [order?_of_numeric? holds holds', order?_of_numeric? holds' holds, Numeric.order?_swap]

/-- What has an order holds a number. -/
theorem exists_numeric {left right : Value} {order : Ordering}
    (ordered : left.order? right = some order) :
    ∃ first second, left.numeric? = some first ∧ right.numeric? = some second := by
  have present : ¬left.order? right = none := by simp [ordered]
  rw [order?_eq_none_iff, not_not] at present
  obtain ⟨⟨first, holds, _⟩, ⟨second, holds', _⟩⟩ := present
  exact ⟨first, second, holds, holds'⟩

/-- The order of values is transitive, whatever kinds of values it goes through. -/
theorem order?_trans {left middle right : Value} (less : left.order? middle = some .lt)
    (less' : middle.order? right = some .lt) : left.order? right = some .lt := by
  obtain ⟨first, second, holds, holds'⟩ := exists_numeric less
  obtain ⟨_, third, _, holds''⟩ := exists_numeric less'
  rw [order?_of_numeric? holds holds'] at less
  rw [order?_of_numeric? holds' holds''] at less'
  rw [order?_of_numeric? holds holds'']
  exact Numeric.order?_trans less less'

/-- Numbers are equal if neither is smaller. -/
theorem equals_eq_order? {left right : Value} (isNumber : left.isNumber = true)
    (isNumber' : right.isNumber = true) :
    left.equals right = (left.order? right == some .eq) := by
  cases left with
  | int first =>
    cases right with
    | int second =>
      have ordered : (Value.int first).order? (.int second) =
          some (compare first.toInt second.toInt) := rfl
      rw [ordered, Bool.eq_iff_iff]
      simp [equals, sameAs, isBool, Int64.toInt_inj]
    | float second => exact Bool.or_false _
    | _ => cases isNumber'
  | float first =>
    cases right with
    | int second =>
      -- the whole number is on the left in both
      have opposite (order : Option Ordering) :
          (order.map Ordering.swap == some .eq) = (order == some .eq) := by
        rcases order with _ | _ | _ | _ <;> rfl
      rw [order?_swap (.int second), opposite]
      exact Bool.or_false _
    | float second => exact Bool.or_false _
    | _ => cases isNumber'
  | _ => cases isNumber

/-- An operator of order asks whether the order is one of those that it wants. -/
theorem isOrdered_of_order? {left right : Value} {order : Ordering} (wanted : Ordering → Bool)
    (ordered : left.order? right = some order) : isOrdered wanted left right = wanted order := by
  rw [isOrdered, ordered]

/-- Without an order no operator of order holds. -/
theorem isOrdered_of_none {left right : Value} (wanted : Ordering → Bool)
    (apart : left.order? right = none) : isOrdered wanted left right = false := by
  rw [isOrdered, apart]

/-- A comparison asks with this test whether one value is less than another one. -/
theorem isOrdered_isLT {left right : Value} :
    isOrdered Ordering.isLT left right = true ↔ left.order? right = some .lt := by
  unfold isOrdered
  rcases left.order? right with _ | _ | _ | _ <;> simp

/-- With the sides exchanged, smaller becomes greater. -/
theorem isOrdered_isGT_swap (left right : Value) :
    isOrdered Ordering.isGT right left = isOrdered Ordering.isLT left right := by
  unfold isOrdered
  rw [order?_swap left right]
  rcases left.order? right with _ | _ | _ | _ <;> rfl

/-- Two numbers are equal if each is at most the other. -/
theorem isOrdered_both {left right : Value} (isNumber : left.isNumber = true)
    (isNumber' : right.isNumber = true) :
    (isOrdered Ordering.isLE left right && isOrdered Ordering.isGE left right) =
      left.equals right := by
  rw [equals_eq_order? isNumber isNumber']
  unfold isOrdered
  rcases left.order? right with _ | _ | _ | _ <;> rfl

variable [RegexEngine]

/-- No operator of order holds of what has no order. -/
theorem combine_of_apart {operator : BinaryOperator} {left right : Value}
    (isOrdering : operator.isOrdering = true) (apart : left.order? right = none) :
    left.combine right operator = .ok (.bool false) := by
  have never (wanted : Ordering → Bool) : isOrdered wanted left right = false :=
    isOrdered_of_none wanted apart
  cases operator with
  | less => rw [combine, never]
  | lessOrEqual => rw [combine, never]
  | greater => rw [combine, never]
  | greaterOrEqual => rw [combine, never]
  | _ => cases isOrdering

end Value

/-- One of three statements is true, and no other. -/
def ExactlyOne (first second third : Prop) : Prop :=
  (first ∧ ¬second ∧ ¬third) ∨ (¬first ∧ second ∧ ¬third) ∨ (¬first ∧ ¬second ∧ third)

section Coherence

variable [RegexEngine]

/-- The operators of order make up one order. Whatever three operands are worth: if one of two
operands has no number, or has the one that is not a number, all four operators are false of them.
Otherwise one of the operands is smaller, or each is at most the other, and only one of the three;
and to be at most another is the same as not to be greater. To be smaller is the same as that the
other one is greater. What is smaller than something smaller is smaller, in any mixture of whole
numbers, floating-point numbers and texts of both. And of two operands that are numbers, each is at
most the other exactly if they are equal.

Proof: all four operators look at the same order of the two values, which is that of the numbers in
them. -/
theorem orderings_are_coherent {ν : Type} {host : Host ν} {limit : Option Nat} {depth : Nat}
    {node : ν} {first second third : Expr} {a b c : Value}
    (firstValue : first.evaluateAt host limit depth node = .ok a)
    (secondValue : second.evaluateAt host limit depth node = .ok b)
    (thirdValue : third.evaluateAt host limit depth node = .ok c) :
    let outcome (expr : Expr) := expr.evaluateAt host limit depth node
    let isTrue (expr : Expr) := outcome expr = .ok (.bool true)
    (¬(a.IsComparable ∧ b.IsComparable) → ∀ operator, operator.isOrdering = true →
      outcome (.binary operator first second) = .ok (.bool false)) ∧
    (a.IsComparable ∧ b.IsComparable →
      ExactlyOne (isTrue (.binary .less first second)) (isTrue (.binary .greater first second))
          (isTrue (.binary .lessOrEqual first second) ∧
            isTrue (.binary .greaterOrEqual first second)) ∧
        outcome (.binary .lessOrEqual first second) =
          outcome (.unary .not (.binary .greater first second))) ∧
    outcome (.binary .less first second) = outcome (.binary .greater second first) ∧
    (isTrue (.binary .less first second) → isTrue (.binary .less second third) →
      isTrue (.binary .less first third)) ∧
    (a.isNumber = true → b.isNumber = true →
      outcome (.binary .and (.binary .lessOrEqual first second)
        (.binary .greaterOrEqual first second)) = outcome (.binary .equal first second)) := by
  intro outcome isTrue
  have combined {operator : BinaryOperator} (noAnd : operator ≠ .and) (noOr : operator ≠ .or) :
      outcome (.binary operator first second) = a.combine b operator :=
    Expr.evaluateAt_operands noAnd noOr firstValue secondValue
  have less : outcome (.binary .less first second) =
      .ok (.bool (Value.isOrdered Ordering.isLT a b)) := combined (by decide) (by decide)
  have lessOrEqual : outcome (.binary .lessOrEqual first second) =
      .ok (.bool (Value.isOrdered Ordering.isLE a b)) := combined (by decide) (by decide)
  have greater : outcome (.binary .greater first second) =
      .ok (.bool (Value.isOrdered Ordering.isGT a b)) := combined (by decide) (by decide)
  have greaterOrEqual : outcome (.binary .greaterOrEqual first second) =
      .ok (.bool (Value.isOrdered Ordering.isGE a b)) := combined (by decide) (by decide)
  refine ⟨?_, ?_, ?_, ?_, ?_⟩
  · intro apart operator isOrdering
    have noAnd : operator ≠ .and := by
      rintro rfl
      cases isOrdering
    have noOr : operator ≠ .or := by
      rintro rfl
      cases isOrdering
    rw [combined noAnd noOr]
    exact Value.combine_of_apart isOrdering (Value.order?_eq_none_iff.mpr apart)
  · intro comparable
    obtain ⟨order, ordered⟩ : ∃ order, a.order? b = some order :=
      Option.ne_none_iff_exists'.mp fun none => Value.order?_eq_none_iff.mp none comparable
    have negated : outcome (.unary .not (.binary .greater first second)) =
        .ok (.bool !Value.isOrdered Ordering.isGT a b) := by
      simp only [outcome] at greater ⊢
      rw [Expr.evaluateAt, greater]
      rfl
    simp only [isTrue]
    rw [negated, less, lessOrEqual, greater, greaterOrEqual]
    simp only [Value.isOrdered_of_order? _ ordered]
    cases order <;> simp [ExactlyOne]
  · have exchanged : outcome (.binary .greater second first) =
        .ok (.bool (Value.isOrdered Ordering.isGT b a)) :=
      Expr.evaluateAt_operands (by decide) (by decide) secondValue firstValue
    rw [less, exchanged, Value.isOrdered_isGT_swap]
  · have less' : outcome (.binary .less second third) =
        .ok (.bool (Value.isOrdered Ordering.isLT b c)) :=
      Expr.evaluateAt_operands (by decide) (by decide) secondValue thirdValue
    have across : outcome (.binary .less first third) =
        .ok (.bool (Value.isOrdered Ordering.isLT a c)) :=
      Expr.evaluateAt_operands (by decide) (by decide) firstValue thirdValue
    simp only [isTrue]
    rw [less, less', across]
    simp only [Except.ok.injEq, Value.bool.injEq, Value.isOrdered_isLT]
    exact Value.order?_trans
  · intro isNumber isNumber'
    have equal : outcome (.binary .equal first second) = .ok (.bool (a.equals b)) :=
      combined (by decide) (by decide)
    have both : outcome (.binary .and (.binary .lessOrEqual first second)
        (.binary .greaterOrEqual first second)) =
          .ok (.bool (Value.isOrdered Ordering.isLE a b && Value.isOrdered Ordering.isGE a b)) := by
      simp only [outcome] at lessOrEqual greaterOrEqual ⊢
      rw [Expr.evaluateAt, lessOrEqual, greaterOrEqual]
      cases Value.isOrdered Ordering.isLE a b <;> rfl
    rw [both, equal, Value.isOrdered_both isNumber isNumber']

end Coherence

/-- A whole number, a text of the next one, which is rounded to the same, and the floating-point
number above both are in order. -/
theorem orderings_are_coherent_mixed :
    let outcome (expr : Expr) :=
      expr.evaluateAt (WidgetTree.ofNested (.node default [])).host none 0 0
    let isTrue (expr : Expr) := outcome expr = .ok (.bool true)
    let whole := Expr.literal (.int 9007199254740992)
    let text := Expr.literal (.string " 9007199254740993 ")
    let float := Expr.literal (.float (.finite false (2 ^ 52 + 1) 1 (by decide)))
    isTrue (.binary .less whole text) ∧ isTrue (.binary .less text float) ∧
      isTrue (.binary .less whole float) := by
  intro outcome isTrue whole text float
  have wholeValue : outcome whole = .ok (.int 9007199254740992) := rfl
  have textValue : outcome text = .ok (.string " 9007199254740993 ") := rfl
  have floatValue : outcome float =
      .ok (.float (.finite false (2 ^ 52 + 1) 1 (by decide))) := rfl
  have less : isTrue (.binary .less whole text) := by decide +kernel
  have less' : isTrue (.binary .less text float) := by decide +kernel
  obtain ⟨-, -, -, transitive, -⟩ := orderings_are_coherent wholeValue textValue floatValue
  exact ⟨less, less', transitive less less'⟩

/-- The order of two rational numbers answers how they compare. -/
theorem cmp_answers (x y : Rat) :
    (some (cmp x y) == some .eq) = decide (x = y) ∧ (cmp x y).isLT = decide (x < y) ∧
      (cmp x y).isLE = decide (x ≤ y) ∧ (cmp x y).isGT = decide (y < x) ∧
      (cmp x y).isGE = decide (y ≤ x) := by
  rcases lt_trichotomy x y with below | rfl | above
  · rw [(cmp_eq_lt_iff _ _).mpr below]
    simp [below, below.le, below.ne]
  · rw [cmp_self_eq_eq]
    simp
  · rw [(cmp_eq_gt_iff _ _).mpr above]
    simp [above, above.le, above.ne']

section MixedComparisons

variable [RegexEngine]

namespace Expr

variable {ν : Type} {host : Host ν} {limit : Option Nat} {depth : Nat} {node : ν}

/-- Under equality and the four operators of order, two operands come to what the same comparison of
two rational numbers comes to. -/
structure CompareAs (host : Host ν) (limit : Option Nat) (depth : Nat) (node : ν)
    (left right : Expr) (x y : Rat) : Prop where
  equal : (binary .equal left right).evaluateAt host limit depth node =
    .ok (.bool (decide (x = y)))
  less : (binary .less left right).evaluateAt host limit depth node =
    .ok (.bool (decide (x < y)))
  lessOrEqual : (binary .lessOrEqual left right).evaluateAt host limit depth node =
    .ok (.bool (decide (x ≤ y)))
  greater : (binary .greater left right).evaluateAt host limit depth node =
    .ok (.bool (decide (y < x)))
  greaterOrEqual : (binary .greaterOrEqual left right).evaluateAt host limit depth node =
    .ok (.bool (decide (y ≤ x)))

/-- Numbers whose order is that of two rational numbers compare as these. -/
theorem CompareAs.of_order? {left right : Expr} {first second : Value} {x y : Rat}
    (leftValue : left.evaluateAt host limit depth node = .ok first)
    (rightValue : right.evaluateAt host limit depth node = .ok second)
    (isNumber : first.isNumber = true) (isNumber' : second.isNumber = true)
    (ordered : first.order? second = some (cmp x y)) :
    CompareAs host limit depth node left right x y := by
  have outcome {operator : BinaryOperator} (noAnd : operator ≠ .and) (noOr : operator ≠ .or) :
      (binary operator left right).evaluateAt host limit depth node =
        first.combine second operator :=
    evaluateAt_operands noAnd noOr leftValue rightValue
  have equality := Value.equals_eq_order? isNumber isNumber'
  obtain ⟨equal, less, lessOrEqual, greater, greaterOrEqual⟩ := cmp_answers x y
  constructor <;> rw [outcome (by decide) (by decide), Value.combine]
  · rw [equality, ordered, equal]
  · rw [Value.isOrdered_of_order? _ ordered, less]
  · rw [Value.isOrdered_of_order? _ ordered, lessOrEqual]
  · rw [Value.isOrdered_of_order? _ ordered, greater]
  · rw [Value.isOrdered_of_order? _ ordered, greaterOrEqual]

end Expr

/-- A whole number is compared with a finite floating-point number as if it were the nearest number
of the format, whichever side it stands on. So it is taken for equal to that one; from every other
floating-point number it is told apart exactly as the rational numbers are, and up to `2 ^ 53`,
where nothing is rounded, from all of them.

Proof: the order is that of the rounded number, and no number of the format lies between a number
and a nearest one. -/
theorem mixed_comparisons_round {ν : Type} {host : Host ν} {limit : Option Nat} {depth : Nat}
    {node : ν} {whole floating : Expr} {number : Int64} {float : Binary64} {value : Rat}
    (wholeValue : whole.evaluateAt host limit depth node = .ok (.int number))
    (floatingValue : floating.evaluateAt host limit depth node = .ok (.float float))
    (finite : float.toRat? = some value) :
    ∃ rounded, (Binary64.ofInt number.toInt).toRat? = some rounded ∧
      Binary64.IsNearest rounded number.toInt ∧
      (number.toInt.natAbs ≤ 2 ^ 53 → rounded = number.toInt) ∧
      Expr.CompareAs host limit depth node whole floating rounded value ∧
      Expr.CompareAs host limit depth node floating whole value rounded ∧
      (Expr.CompareAs host limit depth node whole floating number.toInt value ↔
        (value = rounded → value = number.toInt)) ∧
      (Expr.CompareAs host limit depth node floating whole value number.toInt ↔
        (value = rounded → value = number.toInt)) := by
  obtain ⟨rounded, has, near⟩ := Binary64.ofInt_nearest number
  have exact (small : number.toInt.natAbs ≤ 2 ^ 53) : rounded = number.toInt :=
    Option.some.inj (has.symm.trans (Binary64.ofInt_exact small))
  have sides (place : Rat) (ordered : (Value.int number).order? (.float float) =
      some (cmp place value)) :
      Expr.CompareAs host limit depth node whole floating place value ∧
        Expr.CompareAs host limit depth node floating whole value place := by
    refine ⟨.of_order? wholeValue floatingValue rfl rfl ordered,
      .of_order? floatingValue wholeValue rfl rfl ?_⟩
    rw [Value.order?_swap, ordered, Option.map_some, cmp_swap]
  have ordered : (Value.int number).order? (.float float) = some (cmp rounded value) :=
    Binary64.order?_of_toRat? has finite
  have apart (told : value = rounded → value = number.toInt) :
      (Value.int number).order? (.float float) = some (cmp (number.toInt : Rat) value) := by
    rw [ordered, near.cmp_eq ⟨float, finite⟩ told]
  obtain ⟨left, right⟩ := sides rounded ordered
  refine ⟨rounded, has, near, exact, left, right,
    ⟨fun compared same => ?_, fun told => (sides _ (apart told)).1⟩,
    ⟨fun compared same => ?_, fun told => (sides _ (apart told)).2⟩⟩
  · have equality := left.equal.symm.trans compared.equal
    simpa [same, eq_comm] using equality
  · have equality := right.equal.symm.trans compared.equal
    simpa [same] using equality

end MixedComparisons

/-- A whole number that has to be rounded is told apart from the floating-point number above it. -/
theorem mixed_comparisons_round_up :
    let host := (WidgetTree.ofNested (.node default [])).host
    let float : Binary64 := .finite false (2 ^ 52 + 1) 1 (by decide)
    float.toRat? = some 9007199254740994 ∧
      Expr.CompareAs host none 0 0 (.literal (.int 9007199254740993)) (.literal (.float float))
        9007199254740993 9007199254740994 := by
  intro host float
  have wholeValue : (Expr.literal (.int 9007199254740993)).evaluateAt host none 0 0 =
      .ok (.int 9007199254740993) := rfl
  have floatValue : (Expr.literal (.float float)).evaluateAt host none 0 0 =
      .ok (.float float) := rfl
  have finite : float.toRat? = some 9007199254740994 := by decide +kernel
  obtain ⟨rounded, has, -, -, -, -, exact, -⟩ :=
    mixed_comparisons_round wholeValue floatValue finite
  have below : (Binary64.ofInt (9007199254740993 : Int64).toInt).toRat? =
      some 9007199254740992 := by decide +kernel
  obtain rfl := Option.some.inj (has.symm.trans below)
  have told : (9007199254740994 : Rat) = 9007199254740992 →
      (9007199254740994 : Rat) = (9007199254740993 : Int64).toInt := fun same =>
    absurd same (by norm_num)
  exact ⟨finite, by simpa using exact.mpr told⟩

/-- But it is taken for equal to the floating-point number just below it, and not for greater. -/
theorem whole_number_equals_neighbour :
    let host := (WidgetTree.ofNested (.node default [])).host
    let float : Binary64 := .finite false (2 ^ 52) 1 (by decide)
    let outcome (operator : BinaryOperator) := (Expr.binary operator
      (.literal (.int 9007199254740993)) (.literal (.float float))).evaluateAt host none 0 0
    float.toRat? = some 9007199254740992 ∧
      outcome .equal = .ok (.bool true) ∧ outcome .greater = .ok (.bool false) ∧
      ¬Expr.CompareAs host none 0 0 (.literal (.int 9007199254740993)) (.literal (.float float))
        9007199254740993 9007199254740992 := by
  intro host float outcome
  have equal : outcome .equal = .ok (.bool true) := by decide +kernel
  have greater : outcome .greater = .ok (.bool false) := by decide +kernel
  refine ⟨by decide +kernel, equal, greater, fun compared => ?_⟩
  have wrong := equal.symm.trans compared.equal
  norm_num at wrong

end WidgetAudit
