import WidgetAudit.Proofs.Grammar.Lexemes
import WidgetAudit.Proofs.Source.Brackets
import WidgetAudit.Proofs.Text.Quoted

/-!
# Where quoted texts end

Three loops go along quoted texts: the printer escapes, the grammar takes the escapes back, and the
scan for parentheses skips. None of them calls another, and they have to agree on which quote closes
a text. If they did not, a parenthesis between quotes would be counted or one behind them missed.

The closing quote is the one behind an inside (`Quoted.Encloses`). The grammar and the scan both go
on behind that quote, and without one both go to the end of the text.
-/

namespace WidgetAudit.Source

open Grammar Reader

/-- The scan goes to the end of a text that is not closed. -/
theorem behindQuote_of_unclosed {text : List Char} (unclosed : Quoted.body? text = none) :
    behindQuote text = [] := by
  fun_induction Quoted.body? text with
  | case1 => rfl
  | case2 => cases unclosed
  | case3 => rfl
  | case4 char later inductionHypothesis =>
    rw [behindQuote]
    exact inductionHypothesis (Option.map_eq_none_iff.mp unclosed)
  | case5 char later noQuote noLast noEscape inductionHypothesis =>
    rw [behindQuote]
    · exact inductionHypothesis (Option.map_eq_none_iff.mp unclosed)
    all_goals assumption

/-- A text that is not closed is refused for good, at its end. -/
theorem refuses_quoted_of_unclosed {text : List Char} (unclosed : Quoted.body? text = none) :
    quoted.read ('"' :: text) = .error ⟨.final, [], [.reading "string literal"], none⟩ := by
  rw [quoted, read_bind (read_char '"' _)]
  simp [Reader.remarking, commit, onRefusal, quotedBody, unclosed, Refusal.at]

/-- The loops over quoted texts agree. The grammar reads back what the printer writes, whatever
stands behind it, and leaves just that; and the scan goes on there. Behind any opening quote, the
grammar and the scan stop at the same closing one, which is the only one behind an inside, or there
is none, and both go to the end of the text. -/
theorem quoting_loops_agree :
    (∀ (content : String) (following : List Char),
      quoted.read (Quoted.written content.toList ++ following) = .ok (content, following) ∧
      ∀ limit depth, overflow? limit depth (Quoted.written content.toList ++ following) =
        overflow? limit depth following) ∧
    ∀ text : List Char,
      (∃ inside content behind, Quoted.Encloses inside content ∧ text = inside ++ '"' :: behind ∧
        quoted.read ('"' :: text) = .ok (String.ofList content, behind) ∧
        behindQuote text = behind ∧
        ∀ limit depth, overflow? limit depth ('"' :: text) = overflow? limit depth behind) ∨
      ((¬ ∃ inside content behind, Quoted.Encloses inside content ∧
          text = inside ++ '"' :: behind) ∧
        quoted.read ('"' :: text) = .error ⟨.final, [], [.reading "string literal"], none⟩ ∧
        behindQuote text = [] ∧
        ∀ limit depth, overflow? limit depth ('"' :: text) = none) := by
  constructor
  · intro content following
    exact ⟨read_quoted content following, fun limit depth => overflow?_written _ _ limit depth⟩
  · intro text
    cases found : Quoted.body? text with
    | some pair =>
      obtain ⟨content, behind⟩ := pair
      obtain ⟨inside, encloses, form⟩ := Quoted.exists_encloses_of_body? found
      have skipped := behindQuote_of_body? found
      refine .inl ⟨inside, content, behind, encloses, form, read_quoted_of_body? found, skipped, ?_⟩
      intro limit depth
      rw [overflow?, skipped]
    | none =>
      have skipped := behindQuote_of_unclosed found
      refine .inr ⟨?_, refuses_quoted_of_unclosed found, skipped, ?_⟩
      · rintro ⟨inside, content, behind, encloses, rfl⟩
        cases found.symm.trans (encloses.body?_eq behind)
      · intro limit depth
        rw [overflow?, skipped, overflow?]

end WidgetAudit.Source
