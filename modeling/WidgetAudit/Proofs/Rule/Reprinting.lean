import WidgetAudit.Pattern.GapEngine
import WidgetAudit.Proofs.Grammar.WholeTexts
import WidgetAudit.Proofs.Grammar.Yields
import WidgetAudit.Proofs.Rule.RoundTrip

/-!
# Printing what has been read

Every rule that a source gives is printable, so only the parentheses of its printed form decide
whether it can be read again. The printer puts parentheses around every operator, and the
nesting of a rule counts them. A source needs none of them where operators of one level stand
in a row: a row of more than 128 operators is read, although its printed form is refused.
-/

namespace WidgetAudit

open Grammar.Reader

/-! ### Operators in a row, as they are rendered -/

namespace Rendering

/-- So many operators in a row, without parentheses. -/
def disjunctions : Nat → Rendering
  | 0 => .leaf (.literal (.bool true))
  | count + 1 => .joined .or (disjunctions count) (.leaf (.literal (.bool true)))

/-- The row needs no parentheses, because it is joined from the left. -/
theorem isGrouped_disjunctions (count : Nat) : (disjunctions count).isGrouped = true := by
  induction count with
  | zero => rfl
  | succ count inductionHypothesis =>
    simp [disjunctions, isGrouped, inductionHypothesis, BinaryOperator.tightness, tightness,
      primaryTightness]

/-- There is no sign in the row. -/
theorem longestRow_disjunctions (count : Nat) : (disjunctions count).longestRow = 0 := by
  induction count with
  | zero => rfl
  | succ count inductionHypothesis => simp [disjunctions, longestRow, inductionHypothesis]

/-- There is no parenthesis in the row. -/
theorem nesting_disjunctions (count : Nat) : (disjunctions count).nesting = 0 := by
  induction count with
  | zero => rfl
  | succ count inductionHypothesis => simp [disjunctions, nesting, inductionHypothesis]

end Rendering

/-! ### Rules that have been read -/

section AnyEngine

variable [RegexEngine]

/-- Every rule that the grammar reads can be written. -/
theorem Grammar.rule_yields (depth : Nat) :
    (Grammar.rule depth).Yields fun rule => rule.isPrintable = true := by
  refine .behind fun _ => .behind fun _ => .behind fun name => .behind fun _ =>
    selectors_yields.bind fun selectors ⟨nonempty, printable⟩ => .behind fun _ =>
    .behind fun details => (clause_yields depth "when").optional.bind fun guard guardNormal =>
    ((clause_yields depth "ensure").commit.remarking _).bind fun ensure ensureNormal =>
    .behind fun report => .behind fun _ => .pure ?_
  have guarded : guard.all Expr.isNormal = true := by
    cases guard with
    | none => rfl
    | some expr => exact guardNormal expr rfl
  simp only [Rule.isPrintable, Bool.and_eq_true, Bool.not_eq_true', List.isEmpty_eq_false_iff,
    List.all_eq_true]
  exact ⟨⟨⟨nonempty, printable⟩, guarded⟩, ensureNormal⟩

namespace Rule

/-- Every rule that a source gives can be written. -/
theorem isPrintable_of_parse {source : String} {rule : Rule}
    (loaded : Rule.parse source = .ok rule) : rule.isPrintable = true := by
  obtain ⟨_, rest, read⟩ := Source.read_accepts_iff.mp loaded
  obtain ⟨place, begun, _⟩ := Grammar.whole_accepts read
  exact Grammar.rule_yields _ begun

/-- What can be loaded can be saved and loaded again, if its printed form opens at most 128
parentheses at once. Otherwise the printed form is refused for its depth. -/
theorem parse_text_of_parse {source : String} {rule : Rule}
    (loaded : Rule.parse source = .ok rule) :
    (rule.nesting ≤ 128 → Rule.parse rule.text = .ok rule) ∧
      (128 < rule.nesting → ∃ error, Rule.parse rule.text = .error error ∧
        error.message = Source.nestingMessage) := by
  have printable := isPrintable_of_parse loaded
  constructor
  · intro fits
    exact parse_of_read ((opens_written printable).overflow?_eq_none fits)
      (read_written printable fits)
  · intro deep
    exact parse_text_overNested printable deep

end Rule

/-! ### Operators in a row -/

namespace Rendering

/-- The row stands for an expression that can be read. -/
theorem isNormal_disjunctions (count : Nat) : (disjunctions count).expr.isNormal = true := by
  induction count with
  | zero => rfl
  | succ count inductionHypothesis =>
    change Expr.isNormal (.binary .or (disjunctions count).expr (.literal (.bool true))) = true
    simp [Expr.isNormal, inductionHypothesis, Value.isNormal]

/-- The printer puts parentheses around each of the operators. -/
theorem nesting_expr_disjunctions (count : Nat) : (disjunctions count).expr.nesting = count := by
  induction count with
  | zero => rfl
  | succ count inductionHypothesis =>
    change Expr.nesting (.binary .or (disjunctions count).expr (.literal (.bool true))) = _
    simp [Expr.nesting, inductionHypothesis]

/-- The rule that asserts a row of operators. -/
def disjunctionRule (count : Nat) : Rule where
  name := "r"
  selectors := [.any]
  details := .empty
  guard := none
  ensure := (disjunctions count).expr
  report := "x"

/-- The printed rule nests as deep as there are operators. -/
theorem nesting_disjunctionRule (count : Nat) : (disjunctionRule count).nesting = count := by
  simp [disjunctionRule, Rule.nesting, nesting_expr_disjunctions, Selector.nesting]

/-- A row of operators is read, however long it is. -/
theorem parse_disjunctions (count : Nat) :
    Rule.parse (String.ofList (disjunctions count).ruleText) = .ok (disjunctionRule count) := by
  have normal := isNormal_disjunctions count
  have fits : (disjunctions count).nesting ≤ Source.nestingLimit := by
    rw [nesting_disjunctions]
    exact Nat.zero_le _
  have rows : (disjunctions count).longestRow ≤ Grammar.signLimit := by
    rw [longestRow_disjunctions]
    exact Nat.zero_le _
  exact Rule.parse_of_read ((opens_ruleText normal).overflow?_eq_none fits)
    (read_ruleText (isGrouped_disjunctions count) rows normal fits)

end Rendering

end AnyEngine

/-- With 128 operators in a row the limit is reached, and with 129 it is exceeded. -/
theorem Rule.parse_text_at_limit :
    Rule.parse (Rendering.disjunctionRule 128).text = .ok (Rendering.disjunctionRule 128) ∧
      ∃ error, Rule.parse (Rendering.disjunctionRule 129).text = .error error ∧
        error.message = Source.nestingMessage := by
  have fits : (Rendering.disjunctionRule 128).nesting ≤ 128 := by
    rw [Rendering.nesting_disjunctionRule]
  have deep : 128 < (Rendering.disjunctionRule 129).nesting := by
    rw [Rendering.nesting_disjunctionRule]
    decide
  exact ⟨(parse_text_of_parse (Rendering.parse_disjunctions 128)).1 fits,
    (parse_text_of_parse (Rendering.parse_disjunctions 129)).2 deep⟩

/-- So it is not true of every source that its rule is read again from its printed form. -/
theorem Rule.parse_text_disjunctions :
    Rule.parse (String.ofList (Rendering.disjunctions 129).ruleText) =
        .ok (Rendering.disjunctionRule 129) ∧
      Rule.parse (Rendering.disjunctionRule 129).text ≠ .ok (Rendering.disjunctionRule 129) := by
  have loaded := Rendering.parse_disjunctions 129
  refine ⟨loaded, ?_⟩
  have deep : 128 < (Rendering.disjunctionRule 129).nesting := by
    rw [Rendering.nesting_disjunctionRule]
    decide
  obtain ⟨error, refused, _⟩ := parse_text_overNested (isPrintable_of_parse loaded) deep
  rw [refused]
  intro impossible
  cases impossible

end WidgetAudit
