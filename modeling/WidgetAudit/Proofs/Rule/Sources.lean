import WidgetAudit.Proofs.Expr.Mentions
import WidgetAudit.Proofs.Rule.Concatenation
import WidgetAudit.Proofs.Rule.Reprinting
import WidgetAudit.Proofs.Rule.Spacing

/-!
# Rules from sources

A rule comes from a source in one of two ways: as the only rule of the source, or as one of its
rules. Either way the grammar reads it at some place of a text that the scan for parentheses lets
pass from there on. A law about that reading is a law about every rule that can be loaded.
-/

namespace WidgetAudit

open Grammar.Reader

variable [RegexEngine]

/-- Behind the rules that have been read, the scan still lets the text pass. -/
theorem Grammar.read_of_mem_row {depth limit : Nat} {input place : List Char} {rules : List Rule}
    (row : Row (Grammar.rule depth) input rules place) (enough : limit ≤ depth)
    (passes : Source.overflow? limit 0 input = none) {found : Rule} (member : found ∈ rules) :
    ∃ here rest, Source.overflow? limit 0 here = none ∧
      (Grammar.rule depth).read here = .ok (found, rest) := by
  induction row with
  | stay => cases member
  | @step input middle rest value others read _ inductionHypothesis =>
    rcases List.mem_cons.mp member with rfl | later
    · exact ⟨input, middle, passes, read⟩
    · obtain ⟨passed, passage⟩ := (Grammar.orderly_rule enough).passes read
      exact inductionHypothesis (passage.overflow?_rest (Nat.zero_le _) passes).2 later

namespace Rule

/-- A source gives a rule, as its only one or among others. -/
def IsReadFrom (source : String) (rule : Rule) : Prop :=
  Rule.parse source = .ok rule ∨ ∃ rules, Rule.parseAll source = .ok rules ∧ rule ∈ rules

/-- The expressions of a printable rule are normal. -/
theorem isNormal_of_mem_expressions {rule : Rule} (printable : rule.isPrintable = true)
    {expr : Expr} (member : expr ∈ rule.expressions) : expr.isNormal = true := by
  obtain ⟨_, _, guard, ensure⟩ := parts_of_isPrintable printable
  rcases List.mem_append.mp member with inGuard | inEnsure
  · exact guard expr (Option.mem_toList.mp inGuard)
  · rwa [List.mem_singleton.mp inEnsure]

/-- What a source gives, the grammar has read somewhere in it. -/
theorem IsReadFrom.read {source : String} {rule : Rule} (given : rule.IsReadFrom source) :
    ∃ input rest, Source.overflow? Source.nestingLimit 0 input = none ∧
      (Grammar.rule Source.nestingLimit).read input = .ok (rule, rest) := by
  obtain one | ⟨rules, all, member⟩ := given
  · obtain ⟨passes, rest, read⟩ := parse_accepts one
    obtain ⟨place, begun, _⟩ := Grammar.whole_accepts read
    exact ⟨_, place, passes, begun⟩
  · obtain ⟨passes, rest, read⟩ := parseAll_accepts all
    obtain ⟨place, row, _⟩ := Grammar.allRules_accepts read
    exact Grammar.read_of_mem_row row (Nat.le_refl _) passes member

end Rule

end WidgetAudit
