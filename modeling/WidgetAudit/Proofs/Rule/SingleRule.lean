import WidgetAudit.Pattern.GapEngine
import WidgetAudit.Proofs.Rule.Concatenation
import WidgetAudit.Proofs.Source.Outcome

/-!
# Sources of a single rule

A source of one rule can also be read as a source of any number of rules. This second reading
attempts a rule once more behind the first one. If nothing but layout is left there, the attempt
reads all of it and declines at the missing word `rule`, so it is forgotten and the layout is read
again in front of the end. Both readings give the same rule.

Behind the word `rule` every refusal is final. The repetition cannot forget it and passes it on
as it is, so both readings say the same about what is wrong with the first rule, and where.
-/

namespace WidgetAudit

namespace Grammar

open Reader

variable {α : Type} {depth : Nat} {text : List Char}

/-! ### What is accepted -/

/-- A reader accepts a whole text if and only if nothing but layout is left behind it. -/
theorem whole_accepts_iff {reader : Reader α} {value : α} :
    (∃ rest, (whole reader).read text = .ok (value, rest)) ↔
      ∃ place, reader.read text = .ok (value, place) ∧ layout.read place = .ok ((), []) := by
  constructor
  · rintro ⟨rest, accepted⟩
    exact whole_accepts accepted
  · rintro ⟨place, accepted, ends⟩
    refine ⟨[], ?_⟩
    rw [whole, read_bind accepted, read_bind ends, read_map read_finish]

/-- In front of selectors a rule is never declined any more. -/
theorem resolute_selectors : selectors.Resolute :=
  (resolute_commit _).bind fun _ => (resolute_many _ _).bind fun _ => resolute_pure _

variable [RegexEngine]

/-- No rule begins where nothing but layout is left. -/
theorem declines_rule_of_layout {place : List Char} (ends : layout.read place = .ok ((), [])) :
    (rule depth).Declines place := by
  have wordless : (keyword "rule").Declines [] :=
    declines_keyword fun _ _ impossible => by cases impossible
  exact declines_bind_next ends (wordless.bind _)

/-- A text of one rule is a text of rules that has only this one. -/
theorem oneRule_accepts_iff {found : Rule} :
    (∃ rest, (oneRule depth).read text = .ok (found, rest)) ↔
      ∃ rest, (allRules depth).read text = .ok ([found], rest) := by
  change (∃ rest, (whole (rule depth)).read text = _) ↔ _
  rw [allRules_eq, whole_accepts_iff, whole_accepts_iff]
  constructor
  · rintro ⟨place, read, ends⟩
    have row : Row (rule depth) text [found] place := .step read (.stay place)
    exact ⟨place, row.read_many (consumes_rule depth) (declines_rule_of_layout ends), ends⟩
  · rintro ⟨place, read, ends⟩
    cases (many_accepts read).1 with
    | step foundRead onward =>
      cases onward
      exact ⟨place, foundRead, ends⟩

/-! ### What is refused -/

/-- What a rule begins with: its word, and layout in front of it. -/
def ruleHead : Reader Unit := do
  layout
  keyword "rule"

/-- The first rule of a text is refused, and not before its word has been read. -/
def FailsInFirstRule (depth : Nat) (text : List Char) : Prop :=
  (ruleHead.read text).isOk = true ∧ ((rule depth).read text).isOk = false

/-- A rule is declined at its word or not at all. -/
theorem ruleHead_declines (declines : (rule depth).Declines text) : ruleHead.Declines text := by
  rcases bind_declines declines with atLayout | ⟨_, place, layoutRead, later⟩
  · exact atLayout.bind _
  · rcases bind_declines later with atWord | ⟨_, _, _, behind⟩
    · exact declines_bind_next layoutRead atWord
    · -- behind the word every part is committed, or forgets what it cannot read
      refine absurd behind ?_
      apply Resolute.bind ((resolute_commit _).remarking _)
      intro name
      apply Resolute.bind (resolute_commit _)
      intro joined
      apply resolute_selectors.bind
      intro selectors
      apply Resolute.bind ((resolute_commit _).remarking _)
      intro opened
      apply Resolute.bind (resolute_optional details)
      intro details
      apply Resolute.bind (resolute_optional (clause depth "when"))
      intro guard
      apply Resolute.bind ((resolute_commit (clause depth "ensure")).remarking _)
      intro ensure
      apply Resolute.bind ((resolute_commit _).remarking _)
      intro report
      apply Resolute.bind ((resolute_commit (sign '}')).remarking _)
      intro closed
      exact resolute_pure _

/-- What is wrong with the first rule is refused alike, whether one rule is asked for or any
number of them. -/
theorem refuses_alike (fails : FailsInFirstRule depth text) :
    ∃ refusal, (oneRule depth).read text = .error refusal ∧
      (allRules depth).read text = .error refusal := by
  obtain ⟨begins, refuses⟩ := fails
  cases reply : (rule depth).read text with
  | ok found => simp [reply, Except.isOk, Except.toBool] at refuses
  | error refusal =>
    have final : refusal.severity ≠ .tentative := by
      intro tentative
      obtain ⟨_, headRefused, _⟩ := ruleHead_declines ⟨refusal, reply, tentative⟩
      simp [headRefused, Except.isOk, Except.toBool] at begins
    refine ⟨refusal, refuses_bind reply _, ?_⟩
    exact refuses_bind (refuses_many (consumes_rule depth) reply final) _

end Grammar

namespace Rule

section AnyEngine

variable [RegexEngine]

/-- A source gives a rule as its only one if and only if it gives the list of this one rule. And
where the scan stops a source, or the grammar refuses it in its first rule behind the word `rule`,
it is refused with the same error, whether one rule is asked for or any number of them. -/
theorem parse_agrees_with_parseAll (source : String) :
    (∀ rule, Rule.parse source = .ok rule ↔ Rule.parseAll source = .ok [rule]) ∧
      ((Source.overflow? Source.nestingLimit 0 source.toList).isSome = true ∨
          Grammar.FailsInFirstRule Source.nestingLimit source.toList →
        ∃ error, Rule.parse source = .error error ∧ Rule.parseAll source = .error error) := by
  constructor
  · intro rule
    rw [Rule.parse, Rule.parseAll, Source.read_accepts_iff, Source.read_accepts_iff,
      Grammar.oneRule_accepts_iff]
  · intro fails
    cases scanned : Source.overflow? Source.nestingLimit 0 source.toList with
    | some place =>
      exact ⟨_, Source.read_of_overflow scanned, Source.read_of_overflow scanned⟩
    | none =>
      have inFirstRule : Grammar.FailsInFirstRule Source.nestingLimit source.toList := by
        simpa [scanned] using fails
      obtain ⟨refusal, one, all⟩ := Grammar.refuses_alike inFirstRule
      exact ⟨_, Source.read_of_refusal scanned one, Source.read_of_refusal scanned all⟩

/-- A source whose first rule has two guards, with another rule behind it. -/
def doublyGuarded : String :=
  "// \u00fc (\n rule \"a\" on any \x7b when: hidden when: focusable ensure: enabled " ++
    "report: \"\" \x7d rule \"b\" on any \x7b ensure: enabled report: \"\" \x7d"

end AnyEngine

/-- The second guard is refused in the same words and at the same place. A source of too many
parentheses is refused by the scan, and so is alike as well. -/
theorem parse_agrees_on_doublyGuarded :
    Grammar.FailsInFirstRule Source.nestingLimit doublyGuarded.toList ∧
      Rule.parse doublyGuarded = .error {
        message := "expected \x60ensure\x60, ensure clause", position := ⟨40, 2, 33⟩ } ∧
      Rule.parseAll doublyGuarded = .error {
        message := "expected \x60ensure\x60, ensure clause", position := ⟨40, 2, 33⟩ } ∧
      ∃ error, Rule.parse (String.ofList (.replicate 129 '(')) = .error error ∧
        Rule.parseAll (String.ofList (.replicate 129 '(')) = .error error := by
  have fails : Grammar.FailsInFirstRule Source.nestingLimit doublyGuarded.toList := by
    unfold Grammar.FailsInFirstRule
    decide +kernel
  have one : Rule.parse doublyGuarded = .error {
      message := "expected \x60ensure\x60, ensure clause", position := ⟨40, 2, 33⟩ } := by
    decide +kernel
  obtain ⟨error, oneFails, allFail⟩ := (parse_agrees_with_parseAll doublyGuarded).2 (.inr fails)
  cases oneFails.symm.trans one
  refine ⟨fails, one, allFail, ?_⟩
  exact (parse_agrees_with_parseAll _).2 (.inl (by decide +kernel))

end Rule

end WidgetAudit
