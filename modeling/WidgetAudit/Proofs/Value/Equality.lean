import WidgetAudit.Proofs.Number.Order

/-!
# Equality of values

Equality of the rule language is no equivalence: a number and a text may both equal a truth value
without being equal to each other. But the order of its sides does not matter, and every value
equals itself, apart from the one that is not a number.

It consists of two parts. The first one compares values of one family, to which all numbers belong,
and finds values of different families different. The second one is the only way from one family to
another and leads through truth values: these are equal to all that is cast to them.
-/

namespace WidgetAudit

namespace Value

/-- The families of values. -/
inductive Family
  | null
  | bool
  | number
  | text
deriving DecidableEq

/-- The family of a value. -/
def family : Value → Family
  | .null => .null
  | .bool _ => .bool
  | .int _ | .float _ => .number
  | .string _ => .text

/-! ### Within a family -/

/-- Values of different families are not the same. -/
theorem family_eq_of_sameAs {first second : Value} (same : first.sameAs second = true) :
    first.family = second.family := by
  cases first with
  | null =>
    cases second with
    | null => rfl
    | _ => cases same
  | bool truth =>
    cases second with
    | bool truth' => rfl
    | _ => cases same
  | string text =>
    cases second with
    | string text' => rfl
    | _ => cases same
  | _ =>
    -- a number of either kind
    cases second with
    | int number => rfl
    | float number => rfl
    | _ => cases same

/-- Which of two values comes first does not matter for whether they are the same. -/
theorem sameAs_comm (first second : Value) : first.sameAs second = second.sameAs first := by
  cases first with
  | null => cases second <;> rfl
  | bool truth =>
    cases second with
    | bool truth' => exact Bool.beq_comm
    | _ => rfl
  | int number =>
    cases second with
    | int number' => exact Bool.beq_comm
    | _ => rfl
  | float number =>
    cases second with
    | float number' => exact Binary64.equals_comm number number'
    | _ => rfl
  | string text =>
    cases second with
    | string text' => exact Bool.beq_comm
    | _ => rfl

/-- Every value is the same as itself, apart from the one that is not a number. -/
theorem sameAs_self_iff (value : Value) : value.sameAs value = true ↔ value ≠ .float .nan := by
  cases value with
  | float number => simp [sameAs, Binary64.equals_self_iff]
  | _ => simp [sameAs]

/-! ### Through truth values -/

/-- Without a truth value on either side, equal values are the same. -/
theorem equals_of_noBool {first second : Value} (noBool : first.isBool = false)
    (noBool' : second.isBool = false) : first.equals second = first.sameAs second := by
  rw [equals, noBool, noBool', Bool.or_self, Bool.false_and, Bool.or_false]

/-- Only the same truth value is the same as a truth value. -/
theorem truth?_of_sameAs_bool {value : Value} {truth : Bool}
    (same : value.sameAs (.bool truth) = true) : value.truth? = some truth := by
  cases value with
  | bool own => exact congrArg some (eq_of_beq same)
  | _ => cases same

/-- A truth value is equal to the values that it can be read from, and to no other. -/
theorem equals_bool_iff (value : Value) (truth : Bool) :
    value.equals (.bool truth) = true ↔ value.truth? = some truth := by
  have own : (Value.bool truth).truth? = some truth := rfl
  have isBool : (Value.bool truth).isBool = true := rfl
  rw [equals, own, isBool, Bool.or_true, Bool.true_and, Bool.or_eq_true]
  constructor
  · rintro (same | agree)
    · exact truth?_of_sameAs_bool same
    · cases read : value.truth? with
      | none => simp [read] at agree
      | some other => simpa [read] using agree
  · intro read
    right
    simp [read]

/-- A value is cast to the truth value that it can be read as. -/
theorem cast_bool_iff (value : Value) (truth : Bool) :
    value.cast .bool = .bool truth ↔ value.truth? = some truth := by
  rw [cast]
  cases value.truth? <;> simp

/-- Every value is equal to itself, apart from the one that is not a number. -/
theorem equals_self_iff (value : Value) : value.equals value = true ↔ value ≠ .float .nan := by
  cases value with
  | bool truth => simp [equals, sameAs]
  | _ => rw [equals_of_noBool rfl rfl, sameAs_self_iff]

/-- Which of two values comes first does not matter for their equality. -/
theorem equals_comm (first second : Value) : first.equals second = second.equals first := by
  rw [equals, equals, sameAs_comm, Bool.or_comm first.isBool]
  cases first.truth? with
  | none => cases second.truth? <;> rfl
  | some truth =>
    cases second.truth? with
    | none => rfl
    | some truth' =>
      have agree : (truth == truth') = (truth' == truth) := Bool.beq_comm
      simp only [agree]

end Value

/-- Equality of the rule language keeps its laws for all values. Which side a value stands on does
not matter. Every value equals itself, apart from the floating-point value that is not a number. A
value equals a truth value exactly if its cast gives that one, so the null value and a text of
another word than the two equal neither of them. And without a truth value on either side, equal
values are of one family: a text never equals a number, and null equals null alone.

Proof: the comparison within a family is symmetric, and so is the question whether two values are
read as one truth value. -/
theorem equality_keeps_laws :
    (∀ first second : Value, first.equals second = second.equals first) ∧
    (∀ value : Value, value.equals value = true ↔ value ≠ .float .nan) ∧
    (∀ (value : Value) (truth : Bool),
      value.equals (.bool truth) = true ↔ value.cast .bool = .bool truth) ∧
    (∀ truth : Bool, Value.null.equals (.bool truth) = false) ∧
    (∀ (text : String) (truth : Bool),
      (Text.trim text.toList).map Char.toLower ≠ "true".toList →
      (Text.trim text.toList).map Char.toLower ≠ "false".toList →
      (Value.string text).equals (.bool truth) = false) ∧
    ∀ first second : Value, first.isBool = false → second.isBool = false →
      first.equals second = true → first.family = second.family := by
  refine ⟨Value.equals_comm, Value.equals_self_iff, ?_, ?_, ?_, ?_⟩
  · intro value truth
    rw [Value.equals_bool_iff, Value.cast_bool_iff]
  · intro truth
    rw [← Bool.not_eq_true, Value.equals_bool_iff]
    exact (Option.some_ne_none truth).symm
  · intro text truth noTrue noFalse
    have unread : (Value.string text).truth? = none := by
      rw [Value.truth?, if_neg noTrue, if_neg noFalse]
    rw [← Bool.not_eq_true, Value.equals_bool_iff, unread]
    exact (Option.some_ne_none truth).symm
  · intro first second noBool noBool' equal
    rw [Value.equals_of_noBool noBool noBool'] at equal
    exact Value.family_eq_of_sameAs equal

/-- A text of another word equals no truth value, and the text of a number does not equal the
number. -/
theorem equality_keeps_laws_texts :
    (Value.string "yes").equals (.bool true) = false ∧
      (Value.string "1").equals (.int 1) = false := by
  obtain ⟨-, -, -, -, otherWord, family⟩ := equality_keeps_laws
  refine ⟨otherWord "yes" true (by decide) (by decide), ?_⟩
  rw [← Bool.not_eq_true]
  intro equal
  have same := family _ _ rfl rfl equal
  cases same

/-- A truth value equals a number and a text that are not equal to each other. -/
example : (Value.int 1).equals (.bool true) = true ∧
    (Value.bool true).equals (.string " True") = true ∧
    (Value.int 1).equals (.string " True") = false := by
  decide

end WidgetAudit
