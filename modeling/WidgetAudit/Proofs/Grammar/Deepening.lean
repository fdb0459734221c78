import WidgetAudit.Proofs.Grammar.Inversion
import WidgetAudit.Grammar.RuleText

/-!
# More parentheses than needed

The readers of expressions are given the number of parentheses that may be opened inside one
another. Where a reader does not ask for more of them, a larger number makes no difference: it
reads the same, whether it accepts or refuses. This rests on one property of the combinators,
that a refusal which asks for more parentheses is caught by none of them.
-/

namespace WidgetAudit.Grammar

namespace Reader

variable {α β : Type}

/-- Where the first reader was given enough parentheses, the second one reads the same. -/
def DeepensTo (reader deeper : Reader α) : Prop :=
  ∀ input, reader.Suffices input → deeper.read input = reader.read input

namespace DeepensTo

/-- A reader that opens no parenthesis reads the same anyway. -/
theorem refl (reader : Reader α) : reader.DeepensTo reader := fun _ _ => rfl

/-- What is given more and more parentheses still reads the same. -/
theorem trans {reader deeper deepest : Reader α} (deepens : reader.DeepensTo deeper)
    (onward : deeper.DeepensTo deepest) : reader.DeepensTo deepest := by
  intro input enough
  have same := deepens input enough
  have stillEnough : deeper.Suffices input := by
    intro refusal refused
    exact enough refusal (same.symm.trans refused)
  exact (onward input stillEnough).trans same

/-- A deeper reader accepts what the reader accepts. -/
theorem accepts {reader deeper : Reader α} (deepens : reader.DeepensTo deeper)
    {input : List Char} {found : α × List Char} (accepted : reader.read input = .ok found) :
    deeper.read input = .ok found := by
  have enough : reader.Suffices input := by
    intro refusal refused
    cases accepted.symm.trans refused
  exact (deepens input enough).trans accepted

/-- A deeper reader refuses what the reader refuses, if it is not for want of parentheses. -/
theorem refuses {reader deeper : Reader α} (deepens : reader.DeepensTo deeper)
    {input : List Char} {refusal : Refusal} (refused : reader.read input = .error refusal)
    (enough : refusal.severity ≠ .overNested) : deeper.read input = .error refusal := by
  refine (deepens input ?_).trans refused
  intro other otherRefused
  cases refused.symm.trans otherRefused
  exact enough

/-! ### Combinators -/

/-- If the whole has enough parentheses, its first part has, and so has the second one where
the first part has come. -/
protected theorem bind {first deeper : Reader α} {next deeperNext : α → Reader β}
    (deepens : first.DeepensTo deeper)
    (nextDeepens : ∀ value, (next value).DeepensTo (deeperNext value)) :
    (first >>= next).DeepensTo (deeper >>= deeperNext) := by
  intro input enough
  cases reply : first.read input with
  | error refusal =>
    have refused := refuses_bind reply next
    have same := deepens.refuses reply (enough refusal refused)
    rw [refused, refuses_bind same]
  | ok found =>
    have enoughBehind : (next found.1).Suffices found.2 := by
      intro refusal refused
      exact enough refusal ((read_bind reply next).trans refused)
    rw [read_bind reply, read_bind (deepens.accepts reply), nextDeepens _ _ enoughBehind]

/-- A choice does if both alternatives do. The second one is tried in the same cases, because no
choice goes on behind a refusal that asks for parentheses. -/
protected theorem orElse {first deeper second deeperSecond : Reader α}
    (deepens : first.DeepensTo deeper) (secondDeepens : second.DeepensTo deeperSecond) :
    (first <|> second).DeepensTo (deeper <|> deeperSecond) := by
  intro input enough
  cases reply : first.read input with
  | ok found => rw [read_orElse reply, read_orElse (deepens.accepts reply)]
  | error refusal =>
    by_cases tentative : refusal.severity = .tentative
    · have declines : first.Declines input := ⟨refusal, reply, tentative⟩
      have deeperDeclines : deeper.Declines input :=
        ⟨refusal, deepens.refuses reply (by simp [tentative]), tentative⟩
      have enoughLater : second.Suffices input := by
        intro other refused
        exact enough other ((declines.read_orElse second).trans refused)
      rw [declines.read_orElse, deeperDeclines.read_orElse, secondDeepens _ enoughLater]
    · have refused := refuses_orElse reply tentative second
      have same := deepens.refuses reply (enough refusal refused)
      rw [refused, refuses_orElse same tentative]

/-- An option reads the same, for it does not go on either behind a refusal that asks for
parentheses. -/
protected theorem optional {reader deeper : Reader α} (deepens : reader.DeepensTo deeper) :
    (optional reader).DeepensTo (optional deeper) := by
  intro input enough
  cases reply : reader.read input with
  | ok found => rw [read_optional reply, read_optional (deepens.accepts reply)]
  | error refusal =>
    by_cases tentative : refusal.severity = .tentative
    · have same := deepens.refuses reply (by simp [tentative])
      rw [Declines.read_optional ⟨refusal, reply, tentative⟩,
        Declines.read_optional ⟨refusal, same, tentative⟩]
    · have refused := refuses_optional reply tentative
      have same := deepens.refuses reply (enough refusal refused)
      rw [refused, refuses_optional same tentative]

/-- What is done to a refusal may not hide that it asks for parentheses. -/
protected theorem onRefusal {reader deeper : Reader α} (deepens : reader.DeepensTo deeper)
    {severity : Severity → Severity} (shows : severity .overNested = .overNested)
    (remarks : List Remark → List Remark) :
    (reader.onRefusal severity remarks).DeepensTo (deeper.onRefusal severity remarks) := by
  intro input enough
  cases reply : reader.read input with
  | ok found => rw [read_onRefusal reply, read_onRefusal (deepens.accepts reply)]
  | error refusal =>
    have wanting : refusal.severity ≠ .overNested := by
      intro own
      refine enough ⟨severity refusal.severity, refusal.rest, remarks refusal.remarks,
        refusal.fault⟩ ?_ (by simp only [own, shows])
      simp only [Reader.onRefusal, reply]
    simp only [Reader.onRefusal, reply, deepens.refuses reply wanting]

/-- Making refusals final does not hide that one asks for parentheses. -/
protected theorem commit {reader deeper : Reader α} (deepens : reader.DeepensTo deeper) :
    reader.commit.DeepensTo deeper.commit :=
  deepens.onRefusal rfl _

/-- A remark does not hide that a refusal asks for parentheses. -/
protected theorem remarking {reader deeper : Reader α} (deepens : reader.DeepensTo deeper)
    (remark : Remark) : (remarking remark reader).DeepensTo (remarking remark deeper) :=
  deepens.onRefusal rfl _

/-- A check looks at the value alone. -/
protected theorem checked {reader deeper : Reader α} (deepens : reader.DeepensTo deeper)
    (check : α → Except (Option Pattern.Fault) β) :
    (reader.checked check).DeepensTo (deeper.checked check) := by
  intro input enough
  have ownEnough : reader.Suffices input := by
    intro refusal refused
    refine enough refusal ?_
    simp only [Reader.checked, refused]
  simp only [Reader.checked, deepens input ownEnough]

/-- A row is read by a deeper reader as well. -/
theorem row {reader deeper : Reader α} (deepens : reader.DeepensTo deeper)
    {input place : List Char} {values : List α} (row : Row reader input values place) :
    Row deeper input values place := by
  induction row with
  | stay => exact .stay _
  | step found _ inductionHypothesis => exact .step (deepens.accepts found) inductionHypothesis

/-- A repetition reads the same row and stops in the same way. -/
protected theorem many {reader deeper : Reader α} (deepens : reader.DeepensTo deeper)
    (consumes : reader.Consumes) (deeperConsumes : deeper.Consumes) :
    (many reader consumes).DeepensTo (many deeper deeperConsumes) := by
  intro input enough
  cases reply : (many reader consumes).read input with
  | ok found =>
    obtain ⟨row, refusal, refused, tentative⟩ := many_accepts reply
    have same := deepens.refuses refused (by simp [tentative])
    exact (deepens.row row).read_many deeperConsumes ⟨refusal, same, tentative⟩
  | error refusal =>
    obtain ⟨values, place, row, refused, final⟩ := many_refuses reply
    have same := deepens.refuses refused (enough refusal reply)
    rw [(deepens.row row).read_many_eq deeperConsumes, refuses_many deeperConsumes same final]

end DeepensTo

end Reader

open Reader

/-! ### Expressions -/

section Levels

variable [RegexEngine]

variable {inner deeper : Reader Expr} (deepens : inner.DeepensTo deeper)

include deepens

/-- Behind a relation only the condition goes deeper. -/
theorem deepens_relationRest (relation : Relation) :
    (relationRest inner relation).DeepensTo (relationRest deeper relation) := by
  refine .bind (.refl _) fun _ => .bind (.refl _) fun question => ?_
  cases question with
  | none => exact .refl _
  | some quantifier => exact .bind (.refl _) fun _ => .bind deepens fun _ => .refl _

/-- A name goes deeper only as a relation with a condition. -/
theorem deepens_relationOrName (name : String) :
    (relationOrName inner name).DeepensTo (relationOrName deeper name) := by
  unfold relationOrName
  split
  · exact .refl _
  · rename_i relation _
    refine .bind (.refl _) fun choice => ?_
    cases choice with
    | none => exact .refl _
    | some _ => exact (deepens_relationRest deepens relation).commit

/-- What begins with a word goes deeper only as such a relation. -/
theorem deepens_named : (named inner).DeepensTo (named deeper) := by
  refine .bind (.refl _) fun name => ?_
  split
  · exact .refl _
  split
  · exact .refl _
  split
  · refine .bind (.refl _) fun choice => ?_
    cases choice with
    | none => exact deepens_relationOrName deepens name
    | some _ => exact .refl _
  · exact deepens_relationOrName deepens name

/-- An operand goes deeper between parentheses and in a condition. -/
theorem deepens_primary : (primary inner).DeepensTo (primary deeper) := by
  have enclosed : (parenthesized inner).DeepensTo (parenthesized deeper) :=
    .bind (.refl _) fun _ => deepens.commit.bind fun _ => .refl _
  refine .bind (.refl _) fun _ => .remarking ?_ _
  exact enclosed.orElse <| .orElse (.refl _) <| .orElse (.refl _) (deepens_named deepens)

/-- Signs in front make no difference to that. -/
theorem deepens_signed : (signed inner).DeepensTo (signed deeper) := by
  refine .bind (.refl _) fun row => ?_
  dsimp only
  split
  · exact (deepens_primary deepens).bind fun _ => .refl _
  · exact ((deepens_primary deepens).commit.remarking _).bind fun _ => .refl _

omit deepens in
/-- A level takes from its operands how deep it goes. -/
theorem deepens_chain {operand deeperOperand : Reader Expr}
    (deepens : operand.DeepensTo deeperOperand) {operator : Reader BinaryOperator}
    (consumes : operator.Consumes) :
    (chain operand operator consumes).DeepensTo (chain deeperOperand operator consumes) := by
  have step : (chainStep operand operator).DeepensTo (chainStep deeperOperand operator) :=
    .bind (.refl _) fun _ => .bind (.refl _) fun _ => deepens.commit.bind fun _ => .refl _
  exact deepens.bind fun _ => (step.many _ _).bind fun _ => .refl _

/-- Sums, products and comparisons take from their operands how deep they go. -/
theorem deepens_comparison : (comparison inner).DeepensTo (comparison deeper) :=
  deepens_chain (deepens_chain (deepens_chain (deepens_signed deepens) _) _) _

/-- The second operand of an equality goes as deep as a comparison, also if it is a pattern. -/
theorem deepens_equalityStep : (equalityStep inner).DeepensTo (equalityStep deeper) := by
  refine .bind (.refl _) fun _ => .bind (.refl _) fun operator => ?_
  split
  · exact .remarking (.commit (.bind (.refl _) fun _ => .checked (deepens_comparison deepens) _)) _
  · exact (deepens_comparison deepens).commit.bind fun _ => .refl _

/-- An equality takes from its operands how deep it goes. -/
theorem deepens_equality : (equality inner).DeepensTo (equality deeper) :=
  (deepens_comparison deepens).bind fun _ =>
    ((deepens_equalityStep deepens).many _ _).bind fun _ => .refl _

/-- A whole expression goes as deep as the expressions between its parentheses. -/
theorem deepens_disjunction : (disjunction inner).DeepensTo (disjunction deeper) :=
  deepens_chain (deepens_chain (deepens_equality deepens) _) _

end Levels

variable [RegexEngine]

/-- One more parenthesis makes no difference to an expression that has enough of them. -/
theorem deepens_expression_succ (depth : Nat) :
    (expression depth).DeepensTo (expression (depth + 1)) := by
  induction depth with
  | zero =>
    refine deepens_disjunction ?_
    intro input enough
    exact absurd rfl (enough _ rfl)
  | succ depth inductionHypothesis => exact deepens_disjunction inductionHypothesis

/-- More parentheses make no difference to an expression that has enough of them. -/
theorem deepens_expression {depth more : Nat} (le : depth ≤ more) :
    (expression depth).DeepensTo (expression more) := by
  induction le with
  | refl => exact .refl _
  | step _ inductionHypothesis => exact inductionHypothesis.trans (deepens_expression_succ _)

/-! ### Rules -/

section Rules

variable {depth more : Nat} (le : depth ≤ more)

include le

/-- More parentheses make no difference to the expression of a clause that has enough of them. -/
theorem deepens_clause (word : String) : (clause depth word).DeepensTo (clause more word) :=
  .bind (.refl _) fun _ => .bind (.refl _) fun _ =>
    .commit (.bind (.refl _) fun _ => deepens_expression le)

/-- More parentheses make no difference to a rule, which opens them in its two clauses only. -/
theorem deepens_rule : (rule depth).DeepensTo (rule more) :=
  .bind (.refl _) fun _ => .bind (.refl _) fun _ => .bind (.refl _) fun _ =>
    .bind (.refl _) fun _ => .bind (.refl _) fun _ => .bind (.refl _) fun _ =>
    .bind (.refl _) fun _ =>
    .bind (deepens_clause le "when").optional fun _ =>
    .bind ((deepens_clause le "ensure").commit.remarking _) fun _ => .refl _

/-- More parentheses make no difference to a text of one rule. -/
theorem deepens_oneRule : (oneRule depth).DeepensTo (oneRule more) :=
  (deepens_rule le).bind fun _ => .refl _

/-- More parentheses make no difference to a text of any number of rules. -/
theorem deepens_allRules : (allRules depth).DeepensTo (allRules more) :=
  ((deepens_rule le).many _ _).bind fun _ => .refl _

end Rules

end WidgetAudit.Grammar
