import WidgetAudit.Pattern.GapEngine
import WidgetAudit.Proofs.Grammar.Spelling.Rules
import WidgetAudit.Proofs.Rule.Sources

/-!
# What sources say

A source that is read as a rule says this rule and nothing else. Token by token it is the name, the
selectors, the details, the clauses and the report of the rule, in this order. Each clause is a
rendering of its expression, with all the tokens of the expression from left to right and with
parentheses at least where the table of precedence wants them. This is the converse of reading a
rendering back: together they say that a rule is read from the texts that are written for it, and
from no others.
-/

namespace WidgetAudit

open Grammar Reader

section AnyEngine

variable [RegexEngine]

/-- The renderings of a form mean the expressions of the rule. -/
theorem RuleForm.Writes.expr_mem {form : RuleForm} {rule : Rule} (writes : form.Writes rule)
    {rendering : Rendering} (member : rendering ∈ form.renderings) :
    rendering.expr ∈ rule.expressions := by
  rw [Rule.expressions, ← writes.guard, ← writes.ensure]
  rcases List.mem_append.mp member with inGuard | isEnsure
  · refine List.mem_append_left _ (Option.mem_toList.mpr ?_)
    exact Option.mem_map_of_mem _ (Option.mem_toList.mp inGuard)
  · rw [List.mem_singleton.mp isEnsure]
    exact List.mem_append_right _ (List.mem_singleton.mpr rfl)

/-- Every expression of the rule has a rendering in the form. -/
theorem RuleForm.Writes.exists_rendering {form : RuleForm} {rule : Rule}
    (writes : form.Writes rule) {expr : Expr} (member : expr ∈ rule.expressions) :
    ∃ rendering ∈ form.renderings, rendering.expr = expr := by
  rw [Rule.expressions, ← writes.guard, ← writes.ensure] at member
  rcases List.mem_append.mp member with inGuard | isEnsure
  · obtain ⟨rendering, own, meaning⟩ := Option.mem_map.mp (Option.mem_toList.mp inGuard)
    exact ⟨rendering, List.mem_append_left _ (Option.mem_toList.mpr own), meaning⟩
  · exact ⟨form.ensure, by simp [RuleForm.renderings], (List.mem_singleton.mp isEnsure).symm⟩

/-- A form contains its renderings. -/
theorem RuleForm.infix_lexemes {form : RuleForm} (rule : Rule) {rendering : Rendering}
    (member : rendering ∈ form.renderings) : rendering.lexemes <:+: form.lexemes rule := by
  let front : List Lexeme := .word "rule" :: .text rule.name :: .word "on" ::
    (Selector.row rule.selectors ++ .sign '{' :: form.details)
  let guard : List Lexeme := (form.guard.map (Rendering.clause "when")).getD []
  let back : List Lexeme := [.word "report", .sign ':', .text rule.report, .sign '}']
  have form_eq : form.lexemes rule = front ++ (guard ++ (form.ensure.clause "ensure" ++ back)) := by
    simp [lexemes, front, guard, back]
  rw [form_eq]
  rcases List.mem_append.mp member with inGuard | isEnsure
  · have guard_eq : guard = rendering.clause "when" := by
      simp only [guard, Option.mem_toList.mp inGuard, Option.map_some, Option.getD_some]
    exact ⟨front ++ [.word "when", .sign ':'], form.ensure.clause "ensure" ++ back, by
      simp [guard_eq, Rendering.clause]⟩
  · rw [List.mem_singleton.mp isEnsure]
    exact ⟨front ++ (guard ++ [.word "ensure", .sign ':']), back, by simp [Rendering.clause]⟩

namespace Rule

/-- A rule that the grammar reads has been written in a form of it, and no clause opens more
parentheses at once than the scan lets pass. -/
theorem exists_form_of_read {input rest : List Char} {rule : Rule}
    (passes : Source.overflow? Source.nestingLimit 0 input = none)
    (read : (Grammar.rule Source.nestingLimit).read input = .ok (rule, rest)) :
    ∃ (form : RuleForm) (tokens : List (List Char)), form.Writes rule ∧
      Lexed input tokens rest ∧ tokens.map Lexeme.ofToken = form.lexemes rule ∧
      ∀ rendering ∈ form.renderings, rendering.nesting ≤ Source.nestingLimit := by
  obtain ⟨tokens, lexed, form, writes, said⟩ := spells_rule _ read
  refine ⟨form, tokens, writes, lexed, said, ?_⟩
  intro rendering member
  have normal := isNormal_of_mem_expressions (rule_yields _ read) (writes.expr_mem member)
  obtain ⟨after, counted⟩ := Source.exists_depthBehind? lexed passes
  rw [said] at counted
  exact Source.nesting_le_of_infix normal (RuleForm.infix_lexemes rule member) counted

/-- The grammar invents, drops and reorders nothing. A source that is read as a rule is made of
layout and of tokens that say a form of this rule: there are renderings of its guard and of its
assertion, with parentheses at least where the table of precedence wants them, with at most 32 signs
in a row and at most 128 parentheses open at once, and what the source says in the clauses is what
these renderings say. Without parentheses this is what the expressions of the rule say. -/
theorem exists_form_of_parse {source : String} {rule : Rule}
    (accepted : Rule.parse source = .ok rule) :
    ∃ (form : RuleForm) (tokens : List (List Char)), form.Writes rule ∧
      Lexed source.toList tokens [] ∧ tokens.map Lexeme.ofToken = form.lexemes rule ∧
      ∀ rendering ∈ form.renderings, rendering.nesting ≤ Source.nestingLimit ∧
        Lexeme.withoutParentheses rendering.lexemes =
          Lexeme.withoutParentheses rendering.expr.lexemes := by
  obtain ⟨passes, _, wholeRead⟩ := parse_accepts accepted
  obtain ⟨place, read, layoutRead⟩ := whole_accepts wholeRead
  obtain ⟨form, tokens, writes, lexed, said, fits⟩ := exists_form_of_read passes read
  obtain ⟨nothing, onward, silent⟩ := spells_layout layoutRead
  rw [List.map_eq_nil_iff] at silent
  have whole := lexed.append onward
  rw [silent, List.append_nil] at whole
  exact ⟨form, tokens, writes, whole, said, fun rendering member =>
    ⟨fits rendering member, rendering.withoutParentheses_lexemes⟩⟩

/-- A rule with operators of three levels. -/
def negatedSum : Rule where
  name := "r"
  selectors := [.role "button"]
  details := .ofList [("k", "v")]
  guard := some (.state .hidden)
  ensure := .binary .equal
    (.binary .multiply (.unary .negate (.binary .add (.literal (.int 1)) (.literal (.int 2))))
      (.literal (.int 3)))
    (.property "n" (.cast .int))
  report := "x"

/-- A source of that rule with a comment, with zeros in front of numbers and with more parentheses
than it needs. -/
def negatedSumSource : String :=
  "rule \"r\" on role(button) \x7b meta \x7b \"k\": \"v\", \x7d when: ((hidden))\n" ++
    "ensure: -(01 + 2) * 3 // a comment\n == prop(\"n\") as int report: \"x\" \x7d"

end Rule

end AnyEngine

/-- The source has a form of the rule, with its parentheses where the table wants them. -/
theorem Rule.exists_form_negatedSum :
    Rule.parse negatedSumSource = .ok negatedSum ∧
      ∃ (form : RuleForm) (tokens : List (List Char)), form.Writes negatedSum ∧
        Lexed negatedSumSource.toList tokens [] ∧
        tokens.map Lexeme.ofToken = form.lexemes negatedSum ∧
        ∀ rendering ∈ form.renderings, rendering.nesting ≤ Source.nestingLimit ∧
          Lexeme.withoutParentheses rendering.lexemes =
            Lexeme.withoutParentheses rendering.expr.lexemes := by
  have accepted : Rule.parse negatedSumSource = .ok negatedSum := by decide +kernel
  exact ⟨accepted, exists_form_of_parse accepted⟩

end WidgetAudit
