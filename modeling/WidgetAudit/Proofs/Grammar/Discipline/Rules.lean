import WidgetAudit.Proofs.Grammar.Discipline.Expressions
import WidgetAudit.Grammar.RuleText

/-!
# How the readers of rules behave

A rule leaves no parenthesis open and ends with a closing brace. So the reading of one rule
does not depend on what follows it, and after any number of rules the scan has counted as many
closing parentheses as opening ones.
-/

namespace WidgetAudit.Grammar

open Reader
open Source (Passage overflow?)

section Parts

variable {limit depth : Nat}

/-! ### Selectors -/

/-- The argument of a selector closes the parenthesis that it opens. -/
theorem orderly_selectorArgument :
    selectorArgument.Orderly limit depth fun _ => depth :=
  (orderly_sign passage_opening).bind fun _ => (lexical_layout.orderly limit _).bind fun _ =>
    (lexical_identifier.orderly limit _).bind fun _ =>
      (orderly_sign passage_closing).bind fun _ => .pure _

/-- A word and the argument that has to follow it, as every selector but one has them. -/
theorem orderly_selectorWith (word : String) (make : String → Selector) :
    (do keyword word; let name ← commit selectorArgument; return make name :
      Reader Selector).Orderly limit depth fun _ => depth :=
  ((lexical_keyword word).orderly limit depth).bind fun _ =>
    orderly_selectorArgument.commit.bind fun _ => .pure _

/-- Such a selector is declined only where its word is. -/
theorem wary_selectorWith (word : String) (make : String → Selector) :
    (do keyword word; let name ← commit selectorArgument; return make name :
      Reader Selector).Wary :=
  (lexical_keyword word).wary.bind fun _ => (resolute_commit _).bind fun _ => resolute_pure _

/-- A selector is read in order, whichever it is. -/
theorem orderly_selector : selector.Orderly limit depth fun _ => depth := by
  have any := (lexical_keyword "any").bind fun _ => Lexical.pure Selector.any
  refine (lexical_layout.orderly limit depth).bind fun _ => Orderly.remarking ?_ _
  exact (any.orderly limit depth).orElse any.wary <|
    (orderly_selectorWith "role" .role).orElse (wary_selectorWith "role" .role) <|
      (orderly_selectorWith "type" .type).orElse (wary_selectorWith "type" .type)
        (orderly_selectorWith "kind" .kind)

/-- A further selector is read in order. -/
theorem orderly_furtherSelector : furtherSelector.Orderly limit depth fun _ => depth :=
  (lexical_layout.orderly limit depth).bind fun _ =>
    ((lexical_text (by decide)).orderly limit depth).bind fun _ => orderly_selector.commit

/-- A further selector is declined only where its sign is. -/
theorem wary_furtherSelector : furtherSelector.Wary :=
  lexical_layout.wary_bind fun _ => (wary_text (by decide)).bind fun _ => resolute_commit _

/-- Selectors are read in order, as many as there are. -/
theorem orderly_selectors : selectors.Orderly limit depth fun _ => depth :=
  orderly_selector.commit.bind fun _ =>
    (orderly_furtherSelector.many wary_furtherSelector _).bind fun _ => .pure _

/-! ### Details -/

/-- A detail is a small part. -/
theorem lexical_detail : detail.Lexical :=
  lexical_layout.bind fun _ => (lexical_identifier.orElse lexical_quoted).bind fun _ =>
    ((((lexical_sign (by decide)).bind fun _ => lexical_layout.bind fun _ =>
      lexical_quoted).commit).remarking _).bind fun _ =>
        (lexical_sign (by decide)).optional.bind fun _ => .pure _

/-- Details are read in order, and so are the braces around them. -/
theorem orderly_details : details.Orderly limit depth fun _ => depth :=
  (lexical_layout.orderly limit depth).bind fun _ =>
    ((lexical_keyword _).orderly limit depth).bind fun _ =>
      Orderly.commit <| (orderly_sign (passage_curly (.inl rfl))).bind fun _ =>
        ((lexical_detail.many consumes_detail).orderly limit depth).bind fun _ =>
          (orderly_sign (passage_curly (.inr rfl))).bind fun _ => .pure _

/-- Details are declined only where their word is. -/
theorem wary_details : details.Wary :=
  lexical_layout.wary_bind fun _ => (lexical_keyword _).wary.bind fun _ => resolute_commit _

/-! ### Clauses -/

variable [RegexEngine]

/-- A clause is read in order if its expression may open as many parentheses as the limit leaves. -/
theorem orderly_clause {allowance : Nat} (enough : limit ≤ depth + allowance) (word : String) :
    (clause allowance word).Orderly limit depth fun _ => depth :=
  (lexical_layout.orderly limit depth).bind fun _ =>
    ((lexical_keyword word).orderly limit depth).bind fun _ =>
      Orderly.commit <| ((lexical_sign (by decide)).orderly limit depth).bind fun _ =>
        orderly_expression enough

/-- A clause is declined only where its word is. -/
theorem wary_clause (allowance : Nat) (word : String) : (clause allowance word).Wary :=
  lexical_layout.wary_bind fun _ => (lexical_keyword word).wary.bind fun _ => resolute_commit _

/-! ### Rules -/

/-- A rule is read in order and ends with its closing brace. -/
theorem closing_rule {allowance : Nat} (enough : limit ≤ depth + allowance) :
    (rule allowance).Closing limit depth fun _ => depth := by
  have named := ((lexical_layout.bind fun _ => lexical_quoted).commit).remarking
    (.wanted "quoted rule name")
  have joined := (lexical_layout.bind fun _ => lexical_keyword "on").commit
  have opened : (Reader.remarking (.wantedText "\x7b") (commit (sign '{'))).Orderly
      limit depth fun _ => depth := (orderly_sign (passage_curly (.inl rfl))).commit.remarking _
  have guarded := (orderly_clause enough "when").optional_level (wary_clause allowance "when")
  have ensured := (orderly_clause enough "ensure").commit.remarking (.wanted "ensure clause")
  have colon : (sign ':').Lexical := lexical_sign (by decide)
  have reported := ((lexical_layout.bind fun _ => (lexical_keyword "report").bind fun _ =>
    colon.bind fun _ => lexical_layout.bind fun _ => lexical_quoted).commit).remarking
      (.wanted "report clause")
  have closed : (Reader.remarking (.wantedText "\x7d") (commit (sign '}'))).Closing
      limit depth fun _ => depth := closing_brace.commit.remarking _
  exact .bind (lexical_layout.orderly limit depth) fun _ =>
    .bind ((lexical_keyword "rule").orderly limit depth) fun _ =>
    .bind (named.orderly limit depth) fun _ => .bind (joined.orderly limit depth) fun _ =>
    .bind orderly_selectors fun _ => .bind opened fun _ =>
    .bind (orderly_details.optional_level wary_details) fun _ => .bind guarded fun _ =>
    .bind ensured fun _ => .bind (reported.orderly limit depth) fun _ => closed.map fun _ => _

end Parts

end WidgetAudit.Grammar
