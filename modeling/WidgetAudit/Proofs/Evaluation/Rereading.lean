import WidgetAudit.Evaluation
import WidgetAudit.Proofs.Expr.Rereading

/-!
# The meaning of what is read back

An expression that can be written down may be read back as another one, and yet both have the same
value, or the same fault, everywhere. A number with a sign in front is what the sign makes of the
number, because negation changes nothing but the sign. A search behind `matches` finds what the
operator finds that compiles the pattern when it is evaluated; both look at the subject first, and
neither looks for a pattern in the null value.
-/

namespace WidgetAudit

/-- Negating the number behind a sign gives the number with the sign. -/
theorem Value.negated_behindSign? {value number : Value}
    (found : value.behindSign? = some number) : number.negated = .ok value := by
  unfold behindSign? at found
  split at found
  · rename_i own
    split at found
    · obtain ⟨opposite, fits, rfl⟩ := Option.map_eq_some_iff.mp found
      have opposed : -opposite.toInt = own.toInt := by
        rw [toInt_of_int64? fits, Int.neg_neg]
      simp only [negated, numeric?, opposed, int64?_toInt]
    · cases found
  · cases found
    rfl
  · cases found

variable [RegexEngine]

/-- A pattern that compiles is found by the operator if it is found by the search. -/
theorem Value.combine_pattern (subject : Value) (pattern : Pattern) :
    subject.combine (.string pattern.source) .matching = .ok (.bool (subject.isFound pattern)) := by
  have compiled : Pattern.compile (text (.string pattern.source)) = .ok pattern :=
    Pattern.compile_eq_ok_iff.mpr rfl
  simp only [combine, isFoundAs, isFound, compiled]
  cases subject.isNull <;> rfl

namespace Expr

variable {ν : Type}

/-- A join has the value of the plain operator. -/
theorem evaluateAt_join (host : Host ν) (limit : Option Nat) (operator : BinaryOperator)
    (left right : Expr) (depth : Nat) (node : ν) :
    (join operator left right).evaluateAt host limit depth node =
      (binary operator left right).evaluateAt host limit depth node := by
  unfold join
  split
  · rename_i pattern found
    obtain ⟨rfl, rfl⟩ := BinaryOperator.eq_of_pattern? found
    simp only [evaluateAt]
    congr 1
    funext subject
    exact (subject.combine_pattern pattern).symm
  · rfl

/-- What is read back has the same value or the same fault, at every node of every host, inside any
number of quantifiers and under any limit on them. -/
theorem evaluateAt_reread (host : Host ν) (limit : Option Nat) (expr : Expr) (depth : Nat)
    (node : ν) :
    expr.reread.evaluateAt host limit depth node = expr.evaluateAt host limit depth node := by
  induction expr generalizing depth node with
  | literal value =>
    simp only [reread, rereadLiteral]
    split
    · rename_i number found
      -- the sign has become an operator, which is evaluated after the number behind it
      exact Value.negated_behindSign? found
    · rfl
  | state fact => rfl
  | property key access => rfl
  | name identifier => rfl
  | unary operator operand inductionHypothesis =>
    cases operator <;> simp only [reread, evaluateAt, inductionHypothesis]
  | binary operator left right leftHypothesis rightHypothesis =>
    rw [reread, evaluateAt_join]
    cases operator <;> simp only [evaluateAt, leftHypothesis, rightHypothesis]
  | search subject pattern inductionHypothesis =>
    simp only [reread, evaluateAt, inductionHypothesis]
  | quantified relation quantifier body inductionHypothesis =>
    simp only [reread, evaluateAt, inductionHypothesis]
  | count relation => rfl

end Expr

end WidgetAudit
