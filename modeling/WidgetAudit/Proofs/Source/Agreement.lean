import WidgetAudit.Pattern.GapEngine
import WidgetAudit.Proofs.Grammar.WholeTexts
import WidgetAudit.Proofs.Source.Stopping

/-!
# The scan and the grammar see the same parentheses

The scan that refuses texts which nest too deep has its own idea of quotes, comments and
divisions. Here it is compared with the grammar on whole texts, in both directions. A text
that the scan lets pass never asks the grammar for more parentheses than the limit, not even
where the grammar refuses it. And on a text of rules the scan stops exactly where the
parentheses that the grammar has read are too many for the first time.

On a text that the grammar refuses nothing is said about the second direction: what stands
behind the place of the refusal has no meaning that the scan could agree with.
-/

namespace WidgetAudit.Source

open Grammar Reader

/-- A limit is below the greatest of some numbers if it is below one of them. -/
theorem lt_foldr_max_iff {limit : Nat} {numbers : List Int} :
    (limit : Int) < numbers.foldr max 0 ↔ ∃ number ∈ numbers, (limit : Int) < number := by
  induction numbers with
  | nil => simp
  | cons first others inductionHypothesis => simp [inductionHypothesis]

/-- Some parenthesis of a text is beyond the limit if the deepest one is. -/
theorem firstBeyond?_isSome_iff {limit : Nat} {text : List Char} :
    (Passage.firstBeyond? limit 0 (brackets text)).isSome = true ↔
      (limit : Int) < deepest text := by
  simp only [Passage.firstBeyond?, Option.isSome_map, List.find?_isSome, deepest, parentheses,
    lt_foldr_max_iff, List.mem_map, decide_eq_true_eq]
  constructor
  · rintro ⟨parenthesis, member, beyond⟩
    exact ⟨parenthesis.2, ⟨parenthesis, member, rfl⟩, beyond⟩
  · rintro ⟨number, ⟨parenthesis, member, rfl⟩, beyond⟩
    exact ⟨parenthesis, member, beyond⟩

section AnyEngine

variable [RegexEngine]

/-- On a text of rules the scan stops at the first parenthesis that the grammar finds beyond
the limit. -/
theorem overflow?_of_acceptsAlone {text : List Char} (accepts : AcceptsAlone text) (limit : Nat) :
    overflow? limit 0 text = Passage.firstBeyond? limit 0 (brackets text) := by
  obtain ⟨passed, passage⟩ := passes_of_acceptsAlone accepts
  have all : brackets text = passed := by
    rw [passage.brackets_eq, brackets, List.append_nil]
  have ends : overflow? limit 0 [] = none := by rw [overflow?]
  rw [passage.overflow?_eq (Nat.zero_le limit), ends, Option.or_none, all]
  rfl

/-- The scan and the grammar see the same parentheses.

If the scan lets a text pass, the grammar never asks for more parentheses than the limit,
whether it accepts the text or refuses it, and so it reads the text as it would if more
parentheses were allowed. If the grammar alone accepts a text, the scan stops at the first
parenthesis behind which more are open than the limit allows, which is an opening one, and it
stops if and only if the text nests deeper than the limit. -/
theorem scan_sees_parentheses :
    (∀ (limit : Nat) (text : List Char), overflow? limit 0 text = none →
      ((oneRule limit).Suffices text ∧ (allRules limit).Suffices text) ∧
        ∀ depth, limit ≤ depth → (oneRule depth).read text = (oneRule limit).read text ∧
          (allRules depth).read text = (allRules limit).read text) ∧
      ∀ text, AcceptsAlone text → ∀ limit : Nat,
        overflow? limit 0 text = ((parentheses text).find? fun parenthesis =>
            (limit : Int) < parenthesis.2).map Prod.fst ∧
          ((overflow? limit 0 text).isSome = true ↔ (limit : Int) < deepest text) ∧
          ∀ rest, overflow? limit 0 text = some rest → rest.head? = some '(' := by
  constructor
  · intro limit text passes
    have one : (oneRule limit).Suffices text := whole_suffices (suffices_rule passes)
    have all : (allRules limit).Suffices text := whole_suffices (suffices_rules passes)
    refine ⟨⟨one, all⟩, ?_⟩
    intro depth deeper
    exact ⟨deepens_oneRule deeper text one, deepens_allRules deeper text all⟩
  · intro text accepts limit
    have stops := overflow?_of_acceptsAlone accepts limit
    refine ⟨stops, ?_, fun rest => overflow?_opening⟩
    rw [stops]
    exact firstBeyond?_isSome_iff

/-- A rule with parentheses in quotes, in comments and around a divisor. -/
def scatteredParentheses : List Char :=
  "rule \"(\" on any \x7b # (\r\n ensure: (1 / (2)) report: \"\\\"((\" \x7d // (((".toList

end AnyEngine

/-- A limit of two lets them pass, and a limit of one stops at the inner pair. -/
theorem scan_sees_scattered_parentheses :
    ((oneRule 2).Suffices scatteredParentheses ∧
      (oneRule 128).read scatteredParentheses = (oneRule 2).read scatteredParentheses) ∧
    deepest scatteredParentheses = 2 ∧
    (overflow? 1 0 scatteredParentheses).map (List.take 3) = some "(2)".toList := by
  have passes : overflow? 2 0 scatteredParentheses = none := by decide +kernel
  have accepts : AcceptsAlone scatteredParentheses := ⟨2, .inl (by decide +kernel)⟩
  have atTwo := scan_sees_parentheses.1 2 _ passes
  have atOne := scan_sees_parentheses.2 _ accepts 1
  refine ⟨⟨atTwo.1.1, (atTwo.2 128 (by decide)).1⟩, by decide +kernel, ?_⟩
  rw [atOne.1]
  decide +kernel

end WidgetAudit.Source
