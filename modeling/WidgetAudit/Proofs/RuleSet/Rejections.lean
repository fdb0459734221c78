import WidgetAudit.Pattern.GapEngine
import WidgetAudit.Proofs.RuleSet.Accounting

/-!
# What is rejected leaves no trace

Whether a candidate is loaded depends on the rules that have been loaded before it, and on nothing
else that came before it: what has been rejected does not matter to it. So it makes no difference
to the loaded rules whether a candidate that is rejected was offered at all.

This is shown in two ways. Inputs from which everything is taken out that is rejected load the same
rules, and nothing of them is rejected; and an input of which nothing can be loaded may be put
anywhere among other inputs. In both cases two runs are compared candidate by candidate, and what
stays equal is the rules that have been loaded so far.
-/

namespace WidgetAudit

namespace Loaded

variable {schema : Option Schema}

/-! ### What a verdict depends on -/

variable [RegexEngine]

/-- The verdict on a candidate depends on the rules that have been loaded, not on what has been
rejected. -/
theorem verdict_congr {loaded other : Loaded} (same : loaded.rules = other.rules)
    (candidate : Candidate) : loaded.verdict schema candidate = other.verdict schema candidate := by
  cases candidate with
  | unreadable error => rfl
  | rule rule => simp only [verdict, accept, same]

/-- A rule that is loaded is the candidate itself. -/
theorem eq_rule_of_verdict {loaded : Loaded} {candidate : Candidate} {rule : Rule}
    (verdict : loaded.verdict schema candidate = .ok rule) : candidate = .rule rule := by
  cases candidate with
  | unreadable error => cases verdict
  | rule offered =>
    simp only [Loaded.verdict] at verdict
    split at verdict
    · rw [Except.ok.inj verdict]
    · cases verdict

/-- Where the same rules have been loaded, the same candidates load the same further rules. -/
theorem rules_foldl_congr (candidates : List Candidate) {loaded other : Loaded}
    (same : loaded.rules = other.rules) :
    (candidates.foldl (add schema) loaded).rules = (candidates.foldl (add schema) other).rules := by
  induction candidates generalizing loaded other with
  | nil => exact same
  | cons candidate others inductionHypothesis =>
    apply inductionHypothesis
    rw [add_eq, add_eq, same, verdict_congr same]

/-! ### Loading what was loaded -/

/-- The rules that are loaded of candidates, in their order. -/
def accepted (schema : Option Schema) : Loaded → List Candidate → List Rule
  | _, [] => []
  | loaded, candidate :: others =>
    rulesOf [loaded.verdict schema candidate] ++
      accepted schema (loaded.add schema candidate) others

/-- Where the same rules have been loaded before, the rules that are loaded of candidates are
loaded again if they are offered alone, and nothing is rejected.

Induct on the candidates. One that is rejected is offered in the first run only and leaves its rules
as they are; one that is loaded gets the same verdict in both runs. -/
theorem foldl_accepted (candidates : List Candidate) {loaded other : Loaded}
    (same : other.rules = loaded.rules) :
    ((accepted schema loaded candidates).map Candidate.rule).foldl (add schema) other =
      ⟨(candidates.foldl (add schema) loaded).rules, other.rejected⟩ := by
  induction candidates generalizing loaded other with
  | nil =>
    simp only [accepted, List.map_nil, List.foldl_nil, ← same]
  | cons candidate others inductionHypothesis =>
    cases answer : loaded.verdict schema candidate with
    | error rejection =>
      have kept : (loaded.add schema candidate).rules = loaded.rules := by
        simp [add_eq, answer, rulesOf, Except.toOption]
      simp only [accepted, answer, List.foldl_cons]
      exact inductionHypothesis (same.trans kept.symm)
    | ok rule =>
      obtain rfl := eq_rule_of_verdict answer
      have again : other.verdict schema (.rule rule) = .ok rule := by
        rw [verdict_congr same, answer]
      have grown : (other.add schema (.rule rule)).rules =
          (loaded.add schema (.rule rule)).rules := by
        rw [add_eq, add_eq, answer, again, same]
      have nothing : (other.add schema (.rule rule)).rejected = other.rejected := by
        simp [add_eq, again, rejectionsOf]
      have onwards := inductionHypothesis grown
      rw [nothing] at onwards
      simpa [accepted, answer, rulesOf, Except.toOption] using onwards

/-- Inputs from which everything is taken out that is rejected: in the place of each of them stand
the rules that are loaded of it. A rule that is loaded stays where it is, and a source that cannot
be read leaves nothing. -/
def purge (schema : Option Schema) : Loaded → List RuleInput → List RuleInput
  | _, [] => []
  | loaded, input :: others =>
    (accepted schema loaded input.candidates).map RuleInput.rule ++
      purge schema (input.candidates.foldl (add schema) loaded) others

/-- Rules that are given as inputs are offered as they are. -/
theorem candidates_of_rules (rules : List Rule) :
    (rules.map RuleInput.rule).flatMap RuleInput.candidates = rules.map Candidate.rule := by
  induction rules with
  | nil => rfl
  | cons rule others inductionHypothesis =>
    rw [List.map_cons, List.flatMap_cons, inductionHypothesis]
    rfl

/-- Where the same rules have been loaded before, what is left of inputs loads the same further
rules, and nothing of it is rejected. -/
theorem foldl_purge (inputs : List RuleInput) {loaded other : Loaded}
    (same : other.rules = loaded.rules) :
    ((purge schema loaded inputs).flatMap RuleInput.candidates).foldl (add schema) other =
      ⟨((inputs.flatMap RuleInput.candidates).foldl (add schema) loaded).rules,
        other.rejected⟩ := by
  induction inputs generalizing loaded other with
  | nil =>
    simp only [purge, List.flatMap_nil, List.foldl_nil, ← same]
  | cons input others inductionHypothesis =>
    rw [purge, List.flatMap_append, List.foldl_append, candidates_of_rules,
      foldl_accepted input.candidates same, List.flatMap_cons, List.foldl_append]
    exact inductionHypothesis rfl

end Loaded

/-! ### Inputs that cannot be loaded -/

section AnyEngine

variable [RegexEngine]

/-- Nothing of an input can be loaded: it is a source that cannot be read, or a rule that does not
fit. -/
def RuleInput.IsUnfit (schema : Option Schema) : RuleInput → Prop
  | .source text => ∃ error, Rule.parseAll text = .error error
  | .rule given => ¬ Loaded.Fits schema given

/-- An input of which nothing can be loaded leaves the loaded rules as they are. -/
theorem Loaded.rules_foldl_of_isUnfit {schema : Option Schema} {input : RuleInput}
    (unfit : input.IsUnfit schema) (loaded : Loaded) :
    (input.candidates.foldl (add schema) loaded).rules = loaded.rules := by
  cases input with
  | source text =>
    obtain ⟨error, refused⟩ := unfit
    simp only [RuleInput.candidates, refused, List.foldl_cons, List.foldl_nil, add]
  | rule given =>
    simp only [RuleInput.candidates, List.foldl_cons, List.foldl_nil, add]
    cases answer : loaded.accept schema given with
    | error fault => rfl
    | ok => exact absurd (check_eq_ok_iff.mp (check_of_accept answer)) unfit

namespace RuleSetPlan

/-- The plan without all that is rejected of its inputs. -/
def purged (plan : RuleSetPlan) : RuleSetPlan :=
  { plan with inputs := Loaded.purge plan.schema .empty plan.inputs }

/-- Rejections leave no trace. A plan from which everything is taken out that is rejected builds the
same rules in the same order and rejects nothing, so that it can be built strictly as well; and an
input of which nothing can be loaded changes nothing about the rules that are built, wherever it
stands among the inputs.

Proof: what has been loaded before a candidate is the same with and without the rejections, and the
verdict depends on nothing else. -/
theorem rejections_leave_no_trace (plan : RuleSetPlan) :
    plan.purged.build = { plan.build with rejected := [] } ∧
    plan.purged.build? = .ok plan.purged.build ∧
    ∀ (before after : List RuleInput) (input : RuleInput), input.IsUnfit plan.schema →
      { plan with inputs := before ++ input :: after }.build.rules =
        { plan with inputs := before ++ after }.build.rules := by
  have rebuilt : plan.purged.build = { plan.build with rejected := [] } := by
    have loaded : Loaded.ofInputs plan.purged.schema plan.purged.inputs =
        ⟨(Loaded.ofInputs plan.schema plan.inputs).rules, []⟩ :=
      Loaded.foldl_purge plan.inputs rfl
    rw [build, loaded]
    rfl
  refine ⟨rebuilt, ?_, ?_⟩
  · apply (plan.purged.build?_eq.1 _).mpr
    rw [rebuilt]
    exact ⟨rfl, rfl⟩
  · intro before after input unfit
    simp only [build, Loaded.ofInputs, List.flatMap_append, List.flatMap_cons, List.foldl_append]
    apply Loaded.rules_foldl_congr
    exact Loaded.rules_foldl_of_isUnfit unfit _

/-- A rule that mentions a name. -/
def labelledRule : Rule := ⟨"a", [.any], .empty, none, .name "label", "no label"⟩

/-- A plan without names. Of its source the second rule is loaded, under the name of the first one,
which mentions a name. -/
def namelessPlan : RuleSetPlan where
  inputs := [.source ("rule \"a\" on any \x7b ensure: label report: \"\" \x7d" ++
    "rule \"a\" on any \x7b ensure: hidden report: \"\" \x7d")]
  schema := some .empty

/-- The same plan between a rule that mentions a name and a text that is no rule. -/
def crowdedPlan : RuleSetPlan :=
  { namelessPlan with inputs := .rule labelledRule :: namelessPlan.inputs ++ [.source "rule"] }

end RuleSetPlan

end AnyEngine

/-- To the plan without names neither a text that is no rule makes a difference nor a rule that
mentions a name, although it stands in front and has the name of the rule that is loaded. -/
theorem RuleSetPlan.rejections_leave_no_trace_namelessPlan :
    namelessPlan.build.rules.map Rule.ensure = [.state .hidden] ∧
      namelessPlan.build.rejected = [⟨"a", .rule (.unknownName "a" "label")⟩] ∧
      namelessPlan.purged.build? = .ok { namelessPlan.build with rejected := [] } ∧
      (RuleInput.source "rule").IsUnfit namelessPlan.schema ∧
      (RuleInput.rule labelledRule).IsUnfit namelessPlan.schema ∧
      crowdedPlan.build.rules = namelessPlan.build.rules := by
  have unreadable : (RuleInput.source "rule").IsUnfit namelessPlan.schema :=
    ⟨⟨"expected quoted rule name", ⟨4, 1, 5⟩⟩, by decide +kernel⟩
  have unfit : (RuleInput.rule labelledRule).IsUnfit namelessPlan.schema := by
    intro (fits : labelledRule.validate .empty = .ok ())
    exact absurd fits (by decide)
  have built : namelessPlan.build.rules.map Rule.ensure = [.state .hidden] ∧
      namelessPlan.build.rejected = [⟨"a", .rule (.unknownName "a" "label")⟩] := by decide +kernel
  obtain ⟨rebuilt, strict, insertion⟩ := rejections_leave_no_trace namelessPlan
  rw [rebuilt] at strict
  refine ⟨built.1, built.2, strict, unreadable, unfit, ?_⟩
  have behind := insertion (.rule labelledRule :: namelessPlan.inputs) [] _ unreadable
  rw [List.append_nil] at behind
  exact behind.trans (insertion [] namelessPlan.inputs _ unfit)

end WidgetAudit
