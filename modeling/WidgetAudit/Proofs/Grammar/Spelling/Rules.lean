import WidgetAudit.Proofs.Grammar.Spelling.Expressions

/-!
# What readers of rules take

A rule says its name, its selectors, its details, its clauses and its report, each behind the words
and signs that announce it. Selectors, name and report are said in one way only. Details may be
written in several ways, since a key may stand in quotes and a comma may follow, and a clause is
written as some rendering of its expression.
-/

namespace WidgetAudit

/-- What a selector says. -/
def Selector.lexemes : Selector → List Lexeme
  | .any => [.word "any"]
  | .role name => [.word "role", .sign '(', .word name, .sign ')']
  | .type name => [.word "type", .sign '(', .word name, .sign ')']
  | .kind name => [.word "kind", .sign '(', .word name, .sign ')']

/-- What selectors say that are joined by `||`. -/
def Selector.row : List Selector → List Lexeme
  | [] => []
  | first :: others => first.lexemes ++ others.flatMap fun other => .word "||" :: other.lexemes

/-- The lexemes are a detail: a key with or without quotes, its value, and perhaps a comma. -/
def IsDetail (detail : String × String) (said : List Lexeme) : Prop :=
  ∃ key comma, (key = .word detail.1 ∨ key = .text detail.1) ∧
    (comma = [] ∨ comma = [.sign ',']) ∧ said = key :: .sign ':' :: .text detail.2 :: comma

/-- The lexemes are the details of a rule, of which the last one counts where keys are equal. -/
def AreDetails (details : NameTable String) (said : List Lexeme) : Prop :=
  ∃ entries own, details = .ofList entries ∧
    said = .word "meta" :: .sign '{' :: (own ++ [.sign '}']) ∧
    Grammar.Reader.SpelledEach IsDetail entries own

namespace Grammar

open Reader

/-! ### Selectors -/

/-- The argument of a selector is a word between parentheses. -/
theorem spells_selectorArgument :
    selectorArgument.Spells fun name said => said = [.sign '(', .word name, .sign ')'] := by
  refine (spells_sign (by decide)).behind fun _ => ?_
  refine spells_layout.behind fun _ => ?_
  refine spells_identifier.bind ?_
  rintro name _ rfl
  refine (spells_sign (by decide)).behind fun _ => ?_
  exact .pure rfl

/-- A selector says what it is printed as. -/
theorem spells_selector : selector.Spells fun target said => said = target.lexemes := by
  have withArgument (word : String) (target : String → Selector)
      (same : ∀ name, (target name).lexemes = [.word word, .sign '(', .word name, .sign ')']) :
      (do keyword word; let name ← commit selectorArgument; return target name).Spells
        fun target said => said = target.lexemes := by
    refine (spells_keyword word).behind fun _ => ?_
    refine spells_selectorArgument.commit.bind ?_
    rintro name _ rfl
    exact .pure (by rw [same]; rfl)
  have any : (do keyword "any"; return .any : Reader Selector).Spells
      fun target said => said = target.lexemes := by
    refine (spells_keyword "any").behind fun _ => ?_
    exact .pure rfl
  refine spells_layout.behind fun _ => ?_
  exact (any.orElse <| (withArgument "role" .role fun _ => rfl).orElse <|
    (withArgument "type" .type fun _ => rfl).orElse
      (withArgument "kind" .kind fun _ => rfl)).remarking _

/-- Selectors are said one behind the other, with their signs between them. -/
theorem spells_selectors :
    selectors.Spells fun targets said => said = Selector.row targets := by
  have further : furtherSelector.Spells
      fun target said => said = .word "||" :: target.lexemes := by
    refine spells_layout.behind fun _ => ?_
    refine (spells_text_pair rfl (by decide)).behind fun _ => ?_
    exact spells_selector.commit.mono fun target said same => by rw [same]; rfl
  refine spells_selector.commit.bind ?_
  rintro first _ rfl
  refine (further.many _).bind fun others said each => .pure ?_
  rw [Selector.row, List.append_nil, each.eq_flatMap]

/-! ### Details -/

/-- A key with a quoted value says what a detail says. -/
theorem spells_detail : detail.Spells IsDetail := by
  have key : (identifier <|> quoted).Spells
      fun key said => said = [.word key] ∨ said = [.text key] :=
    (spells_identifier.mono fun _ _ => .inl).orElse (spells_quoted.mono fun _ _ => .inr)
  have value : (do Grammar.sign ':'; layout; quoted : Reader String).Spells
      fun value said => said = [.sign ':', .text value] := by
    refine (spells_sign (by decide)).behind fun _ => ?_
    refine spells_layout.behind fun _ => ?_
    exact spells_quoted.mono fun value said same => by rw [same]; rfl
  have comma : (optional (Grammar.sign ',')).Spells
      fun _ said => said = [] ∨ said = [.sign ','] := by
    refine (spells_sign (by decide)).optional.mono ?_
    rintro _ _ (⟨_, rfl⟩ | ⟨_, _, rfl⟩)
    · exact .inl rfl
    · exact .inr rfl
  refine spells_layout.behind fun _ => ?_
  refine key.bind fun key said keySaid => ?_
  refine (value.commit.remarking _).bind ?_
  rintro value _ rfl
  refine comma.bind fun _ more commaSaid => .pure ?_
  rcases keySaid with rfl | rfl
  · exact ⟨_, more, .inl rfl, commaSaid, by simp⟩
  · exact ⟨_, more, .inr rfl, commaSaid, by simp⟩

/-- Details are said between braces, in their order, as they are written. -/
theorem spells_details : details.Spells AreDetails := by
  refine spells_layout.behind fun _ => ?_
  refine (spells_keyword "meta").behind fun _ => ?_
  refine Spells.commit ?_
  refine (spells_sign (by decide)).behind fun _ => ?_
  refine (spells_detail.many _).bind fun entries own each => ?_
  refine (spells_sign (by decide)).behind fun _ => ?_
  exact .pure ⟨entries, own, rfl, by simp, each⟩

end Grammar

/-! ### Forms of a rule -/

variable [RegexEngine]

/-- What a clause says: its word, a colon and its expression. -/
def Rendering.clause (word : String) (rendering : Rendering) : List Lexeme :=
  .word word :: .sign ':' :: rendering.lexemes

/-- A way of writing a rule down: its details, if there are any, and renderings of its guard, if
there is one, and of its assertion. -/
structure RuleForm where
  details : List Lexeme
  guard : Option Rendering
  ensure : Rendering

namespace RuleForm

/-- The renderings of its clauses. -/
def renderings (form : RuleForm) : List Rendering := form.guard.toList ++ [form.ensure]

/-- What a rule says in this form. -/
def lexemes (form : RuleForm) (rule : Rule) : List Lexeme :=
  .word "rule" :: .text rule.name :: .word "on" :: (Selector.row rule.selectors ++
    .sign '{' :: (form.details ++ ((form.guard.map (Rendering.clause "when")).getD [] ++
      (form.ensure.clause "ensure" ++
        [.word "report", .sign ':', .text rule.report, .sign '}']))))

/-- The form is one of the rule: it has the details of the rule, and its clauses mean the
expressions of the rule, with parentheses where the table of precedence wants them. -/
structure Writes (form : RuleForm) (rule : Rule) : Prop where
  details : rule.details = .empty ∧ form.details = [] ∨ AreDetails rule.details form.details
  guard : form.guard.map Rendering.expr = rule.guard
  ensure : form.ensure.expr = rule.ensure
  grouped : ∀ rendering ∈ form.renderings, rendering.isGrouped = true
  rows : ∀ rendering ∈ form.renderings, rendering.longestRow ≤ Grammar.signLimit

end RuleForm

namespace Grammar

open Reader

/-! ### Clauses and rules -/

/-- The lexemes are those of a clause with the expression. -/
def IsClause (word : String) (expr : Expr) (said : List Lexeme) : Prop :=
  ∃ own, said = .word word :: .sign ':' :: own ∧ expr.IsSpelled 0 own

/-- A clause says its word, a colon and its expression. -/
theorem spells_clause (depth : Nat) (word : String) :
    (clause depth word).Spells (IsClause word) := by
  refine spells_layout.behind fun _ => ?_
  refine (spells_keyword word).behind fun _ => ?_
  refine Spells.commit ?_
  refine (spells_sign (by decide)).behind fun _ => ?_
  exact (spells_expression depth).mono fun expr own spelled => ⟨own, rfl, spelled⟩

/-- A guard that may be missing is said by a rendering that may be missing. -/
theorem exists_guardForm {guard : Option Expr} {said : List Lexeme}
    (spelled : guard = none ∧ said = [] ∨ ∃ expr, guard = some expr ∧ IsClause "when" expr said) :
    ∃ form : Option Rendering, form.map Rendering.expr = guard ∧
      said = (form.map (Rendering.clause "when")).getD [] ∧
      ∀ rendering ∈ form.toList, rendering.isGrouped = true ∧ rendering.longestRow ≤ signLimit := by
  obtain ⟨rfl, rfl⟩ | ⟨_, rfl, _, rfl, rendering, rfl, rfl, grouped, rows, _⟩ := spelled
  · exact ⟨none, rfl, rfl, by simp⟩
  · exact ⟨some rendering, rfl, rfl, by simp [grouped, rows]⟩

/-- What is read as a rule is a form of it. -/
theorem spells_rule (depth : Nat) : (rule depth).Spells fun rule said =>
    ∃ form : RuleForm, form.Writes rule ∧ said = form.lexemes rule := by
  have on : (do layout; keyword "on" : Reader Unit).Spells
      fun _ said => said = [.word "on"] := by
    refine spells_layout.behind fun _ => ?_
    exact spells_keyword "on"
  have name : (do layout; quoted : Reader String).Spells fun name said => said = [.text name] := by
    refine spells_layout.behind fun _ => ?_
    exact spells_quoted
  have report : (do layout; keyword "report"; Grammar.sign ':'; layout; quoted :
      Reader String).Spells fun report said =>
        said = [.word "report", .sign ':', .text report] := by
    refine spells_layout.behind fun _ => ?_
    refine (spells_keyword "report").behind fun _ => ?_
    refine (spells_sign (by decide)).behind fun _ => ?_
    exact name.mono fun report said same => by rw [same]; rfl
  refine spells_layout.behind fun _ => ?_
  refine (spells_keyword "rule").behind fun _ => ?_
  refine (name.commit.remarking _).bind ?_
  rintro name _ rfl
  refine on.commit.behind fun _ => ?_
  refine spells_selectors.bind ?_
  rintro targets _ rfl
  refine ((spells_sign (by decide)).commit.remarking _).behind fun _ => ?_
  refine spells_details.optional.bind fun details detailsSaid areDetails => ?_
  refine (spells_clause depth "when").optional.bind fun guard guardSaid isGuard => ?_
  refine ((spells_clause depth "ensure").commit.remarking _).bind ?_
  rintro ensure _ ⟨ensureSaid, rfl, ensureForm, rfl, rfl, ensureGrouped, ensureRows, _⟩
  refine (report.commit.remarking _).bind ?_
  rintro report _ rfl
  refine ((spells_sign (by decide)).commit.remarking _).behind fun _ => ?_
  refine .pure ?_
  obtain ⟨guardForm, rfl, rfl, guardAdmissible⟩ := exists_guardForm isGuard
  have admissible : ∀ rendering ∈ guardForm.toList ++ [ensureForm],
      rendering.isGrouped = true ∧ rendering.longestRow ≤ signLimit := by
    intro rendering member
    rcases List.mem_append.mp member with inGuard | isEnsure
    · exact guardAdmissible rendering inGuard
    · rw [List.mem_singleton.mp isEnsure]
      exact ⟨ensureGrouped, ensureRows⟩
  refine ⟨⟨detailsSaid, guardForm, ensureForm⟩, ⟨?_, rfl, rfl, fun rendering member =>
    (admissible rendering member).1, fun rendering member => (admissible rendering member).2⟩, ?_⟩
  · rcases areDetails with ⟨rfl, rfl⟩ | ⟨table, rfl, own⟩
    · exact .inl ⟨rfl, rfl⟩
    · exact .inr own
  · simp [RuleForm.lexemes, Rendering.clause]

end Grammar

end WidgetAudit
