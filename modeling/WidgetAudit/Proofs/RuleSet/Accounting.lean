import Mathlib.Data.List.Forall2
import Mathlib.Data.List.Induction
import Mathlib.Data.List.Nodup
import WidgetAudit.Pattern.GapEngine
import WidgetAudit.Proofs.RuleSet.Admission

/-!
# What becomes of every candidate

Loading gives a verdict on every candidate: it is loaded, or something is rejected in its
place. What the candidates are is settled by the inputs and by the parser: `RuleInput.Offers`
says it without the loader. `Judged` says which verdict is the right one, from the verdicts
before it alone. A rule is loaded if no rule of its name has been loaded before and the check in
force lets it pass; a rejected rule leaves its name free. The rules and the rejections that
loading ends with are those of the verdicts, in the order of the candidates, so nothing is lost
and nothing counts twice.
-/

namespace WidgetAudit

section AnyEngine

variable [RegexEngine]

/-! ### What inputs offer -/

/-- What an input offers. A given rule offers itself; a text that reads as rules offers every one
of them, in the order of the text; any other text offers the error of reading it, once. -/
inductive RuleInput.Offers : RuleInput → List Candidate → Prop
  | given (rule : Rule) : Offers (.rule rule) [.rule rule]
  | read {text : String} {rules : List Rule} (readable : Rule.parseAll text = .ok rules) :
    Offers (.source text) (rules.map .rule)
  | unread {text : String} {error : ParseError} (unreadable : Rule.parseAll text = .error error) :
    Offers (.source text) [.unreadable error]

/-- The loader takes from an input exactly what it offers. -/
theorem RuleInput.offers_iff {input : RuleInput} {offered : List Candidate} :
    input.Offers offered ↔ offered = input.candidates := by
  constructor
  · intro offers
    cases offers with
    | given rule => rfl
    | read readable => simp only [candidates, readable]
    | unread unreadable => simp only [candidates, unreadable]
  · rintro rfl
    cases input with
    | rule given => exact .given given
    | source text =>
      cases answer : Rule.parseAll text with
      | ok rules => simpa only [candidates, answer] using Offers.read answer
      | error error => simpa only [candidates, answer] using Offers.unread answer

/-- What inputs offer one by one is what the loader takes from each of them. -/
theorem RuleInput.forall₂_offers_iff {inputs : List RuleInput} {offers : List (List Candidate)} :
    List.Forall₂ Offers inputs offers ↔ offers = inputs.map candidates := by
  induction inputs generalizing offers with
  | nil => simp
  | cons input others inductionHypothesis =>
    simp only [List.forall₂_cons_left_iff, offers_iff, inductionHypothesis, List.map_cons]
    constructor
    · rintro ⟨_, _, rfl, rfl, rfl⟩
      rfl
    · rintro rfl
      exact ⟨_, _, rfl, rfl, rfl⟩

/-- What becomes of a candidate: a loaded rule, or a rejection. -/
abbrev Verdict := Except Rejection Rule

namespace Loaded

/-! ### The right verdict -/

/-- The check in force lets a rule pass: it is valid for the schema, or it has a selector
where there is no schema. -/
def Fits (schema : Option Schema) (rule : Rule) : Prop :=
  match schema with
  | some schema => rule.validate schema = .ok ()
  | none => rule.selectors ≠ []

/-- One of the verdicts loads a rule of this name. -/
def Taken (verdicts : List Verdict) (name : String) : Prop :=
  ∃ earlier, .ok earlier ∈ verdicts ∧ earlier.name = name

/-- The verdict on a candidate behind the verdicts on the earlier ones. A repeated name is
reported whatever the check would say. -/
def Judged (schema : Option Schema) (earlier : List Verdict) (verdict : Verdict) :
    Candidate → Prop
  | .unreadable error => verdict = .error ⟨none, .source error⟩
  | .rule rule =>
    (verdict = .ok rule ↔ ¬ Taken earlier rule.name ∧ Fits schema rule) ∧
    (Taken earlier rule.name →
      verdict = .error ⟨some rule.name, .rule (.repeatedName rule.name)⟩) ∧
    (¬ Taken earlier rule.name → ∀ fault, check schema rule = .error fault →
      verdict = .error ⟨some rule.name, .rule fault⟩)

/-- There is one verdict for each candidate, and every one is right. -/
structure Judges (schema : Option Schema) (candidates : List Candidate)
    (verdicts : List Verdict) : Prop where
  length_eq : verdicts.length = candidates.length
  judged : ∀ {place : Nat} {candidate : Candidate} {verdict : Verdict},
    candidates[place]? = some candidate → verdicts[place]? = some verdict →
      Judged schema (verdicts.take place) verdict candidate

/-- The rules that verdicts load. -/
def rulesOf (verdicts : List Verdict) : List Rule := verdicts.filterMap Except.toOption

/-- What verdicts reject. -/
def rejectionsOf (verdicts : List Verdict) : List Rejection :=
  verdicts.filterMap fun verdict =>
    match verdict with
    | .ok _ => none
    | .error rejection => some rejection

/-- The rules that verdicts load are the rules in them. -/
theorem mem_rulesOf {verdicts : List Verdict} {rule : Rule} :
    rule ∈ rulesOf verdicts ↔ .ok rule ∈ verdicts := by
  rw [rulesOf, List.mem_filterMap]
  constructor
  · rintro ⟨verdict, member, loads⟩
    cases verdict with
    | error rejection => cases loads
    | ok loaded =>
      cases loads
      exact member
  · intro member
    exact ⟨.ok rule, member, rfl⟩

/-- The check in force passes exactly the rules that fit. -/
theorem check_eq_ok_iff {schema : Option Schema} {rule : Rule} :
    check schema rule = .ok () ↔ Fits schema rule := by
  cases schema with
  | some schema => rfl
  | none => cases form : rule.selectors <;> simp [check, Fits, form]

/-! ### One more candidate -/

/-- The verdict on a candidate among what has been loaded. -/
def verdict (schema : Option Schema) (loaded : Loaded) : Candidate → Verdict
  | .unreadable error => .error ⟨none, .source error⟩
  | .rule rule =>
    match loaded.accept schema rule with
    | .ok () => .ok rule
    | .error fault => .error ⟨some rule.name, .rule fault⟩

/-- A candidate adds what its verdict says, and nothing else. -/
theorem add_eq (schema : Option Schema) (loaded : Loaded) (candidate : Candidate) :
    loaded.add schema candidate =
      ⟨loaded.rules ++ rulesOf [loaded.verdict schema candidate],
        loaded.rejected ++ rejectionsOf [loaded.verdict schema candidate]⟩ := by
  cases candidate with
  | unreadable error => simp [add, verdict, rulesOf, rejectionsOf, Except.toOption]
  | rule rule =>
    cases answer : loaded.accept schema rule <;>
      simp [add, verdict, answer, rulesOf, rejectionsOf, Except.toOption]

/-- Loading asks the rules that verdicts have loaded whether a name is taken. -/
theorem any_name_iff {loaded : Loaded} {verdicts : List Verdict}
    (rules : loaded.rules = rulesOf verdicts) (name : String) :
    (loaded.rules.any fun earlier => earlier.name == name) = true ↔ Taken verdicts name := by
  simp only [rules, List.any_eq_true, mem_rulesOf, beq_iff_eq, Taken]

/-- The verdict on one more candidate is right. -/
theorem judged_verdict {schema : Option Schema} {loaded : Loaded} {verdicts : List Verdict}
    (rules : loaded.rules = rulesOf verdicts) (candidate : Candidate) :
    Judged schema verdicts (loaded.verdict schema candidate) candidate := by
  cases candidate with
  | unreadable error => rfl
  | rule rule =>
    have asked := any_name_iff rules rule.name
    by_cases taken : Taken verdicts rule.name
    · have repeated : loaded.accept schema rule = .error (.repeatedName rule.name) := by
        rw [accept, if_pos (asked.mpr taken)]
      simp [Judged, verdict, repeated, taken]
    · have first : loaded.accept schema rule = check schema rule := by
        rw [accept, if_neg fun named => taken (asked.mp named)]
      have fits : check schema rule = .ok () ↔ Fits schema rule := check_eq_ok_iff
      cases answer : check schema rule with
      | ok =>
        have passes : Fits schema rule := fits.mp answer
        simp [Judged, verdict, first, answer, taken, passes]
      | error fault =>
        have fails : ¬ Fits schema rule := by
          intro passes
          rw [fits.mpr passes] at answer
          cases answer
        simp [Judged, verdict, first, answer, taken, fails]

/-- Verdicts that are right stay right when a right one is added. -/
theorem Judges.snoc {schema : Option Schema} {candidates : List Candidate}
    {verdicts : List Verdict} (judges : Judges schema candidates verdicts)
    {candidate : Candidate} {verdict : Verdict}
    (judged : Judged schema verdicts verdict candidate) :
    Judges schema (candidates ++ [candidate]) (verdicts ++ [verdict]) := by
  refine ⟨by simp [judges.length_eq], ?_⟩
  intro place someCandidate someVerdict atCandidates atVerdicts
  have sameLength := judges.length_eq
  rcases Nat.lt_trichotomy place verdicts.length with before | last | beyond
  · rw [List.getElem?_append_left (sameLength ▸ before)] at atCandidates
    rw [List.getElem?_append_left before] at atVerdicts
    rw [List.take_append_of_le_length (Nat.le_of_lt before)]
    exact judges.judged atCandidates atVerdicts
  · subst last
    rw [List.getElem?_concat_length] at atVerdicts
    rw [sameLength, List.getElem?_concat_length] at atCandidates
    cases atVerdicts
    cases atCandidates
    rwa [List.take_left']
    rfl
  · rw [List.getElem?_eq_none (by simp only [List.length_append, List.length_singleton]; omega)]
      at atVerdicts
    cases atVerdicts

/-- A right verdict that loads a rule loads the candidate, which fits and finds its name free. -/
theorem Judged.loads {schema : Option Schema} {earlier : List Verdict} {rule : Rule}
    {candidate : Candidate} (judged : Judged schema earlier (.ok rule) candidate) :
    candidate = .rule rule ∧ ¬ Taken earlier rule.name ∧ Fits schema rule := by
  cases candidate with
  | unreadable error => cases judged
  | rule offered =>
    obtain ⟨loaded, repeated, unfit⟩ := judged
    have free : ¬ Taken earlier offered.name := by
      intro taken
      cases repeated taken
    cases answer : check schema offered with
    | error fault => cases unfit free fault answer
    | ok =>
      have fits : Fits schema offered := check_eq_ok_iff.mp answer
      cases loaded.mpr ⟨free, fits⟩
      exact ⟨rfl, free, fits⟩

/-- A right verdict keeps the loaded names distinct. -/
theorem nodup_names_snoc {schema : Option Schema} {verdicts : List Verdict} {verdict : Verdict}
    {candidate : Candidate} (distinct : ((rulesOf verdicts).map Rule.name).Nodup)
    (judged : Judged schema verdicts verdict candidate) :
    ((rulesOf (verdicts ++ [verdict])).map Rule.name).Nodup := by
  cases verdict with
  | error rejection =>
    have same : rulesOf (verdicts ++ [.error rejection]) = rulesOf verdicts := by
      rw [rulesOf, List.filterMap_append]
      exact List.append_nil _
    rwa [same]
  | ok rule =>
    have added : rulesOf (verdicts ++ [.ok rule]) = rulesOf verdicts ++ [rule] := by
      simp [rulesOf, Except.toOption]
    rw [added, List.map_append, List.nodup_append]
    refine ⟨distinct, by simp, ?_⟩
    intro name named other last same
    obtain ⟨earlier, member, rfl⟩ := List.mem_map.mp named
    obtain rfl : other = rule.name := by simpa using last
    exact judged.loads.2.1 ⟨earlier, mem_rulesOf.mp member, same⟩

/-! ### All candidates -/

/-- Verdicts account for everything that loading ends with.

Induct on the candidates from the left: what has been loaded before the last one is what the
verdicts before it say, and its own verdict is added to both. -/
theorem judges_foldl (schema : Option Schema) (candidates : List Candidate) :
    ∃ verdicts, Judges schema candidates verdicts ∧
      ((rulesOf verdicts).map Rule.name).Nodup ∧
      candidates.foldl (add schema) empty = ⟨rulesOf verdicts, rejectionsOf verdicts⟩ := by
  induction candidates using List.reverseRecOn with
  | nil => exact ⟨[], ⟨rfl, by simp⟩, .nil, rfl⟩
  | append_singleton earlier candidate inductionHypothesis =>
    obtain ⟨verdicts, judges, distinct, loaded⟩ := inductionHypothesis
    have judged : Judged schema verdicts
        (verdict schema ⟨rulesOf verdicts, rejectionsOf verdicts⟩ candidate) candidate :=
      judged_verdict rfl candidate
    refine ⟨_, judges.snoc judged, nodup_names_snoc distinct judged, ?_⟩
    rw [List.foldl_append, loaded, List.foldl_cons, List.foldl_nil, add_eq]
    simp only [rulesOf, rejectionsOf, List.filterMap_append]

end Loaded

/-- Among rules of distinct names, looking for a name finds the one rule that has it. -/
theorem RuleSet.find?_eq_some_iff {ruleSet : RuleSet}
    (distinct : (ruleSet.rules.map Rule.name).Nodup) {name : String} {rule : Rule} :
    ruleSet.find? name = some rule ↔ rule ∈ ruleSet.rules ∧ rule.name = name := by
  unfold find?
  constructor
  · intro found
    exact ⟨List.mem_of_find?_eq_some found, by simpa using List.find?_some found⟩
  · rintro ⟨member, rfl⟩
    have present : (ruleSet.rules.find? fun other => other.name == rule.name).isSome := by
      rw [List.find?_isSome]
      exact ⟨rule, member, beq_self_eq_true _⟩
    obtain ⟨other, found⟩ := Option.isSome_iff_exists.mp present
    have sameName : other.name = rule.name := by simpa using List.find?_some found
    have same : other = rule := List.inj_on_of_nodup_map distinct
      (List.mem_of_find?_eq_some found) member sameName
    rw [found, same]

namespace RuleSetPlan

/-- Strict loading answers what lenient loading has built if nothing was rejected, and
otherwise the fault of the first rejection. -/
theorem build?_eq (plan : RuleSetPlan) :
    (∀ ruleSet, plan.build? = .ok ruleSet ↔ plan.build.rejected = [] ∧ ruleSet = plan.build) ∧
    (∀ first others, plan.build.rejected = first :: others →
      plan.build? = .error first.fault) := by
  constructor
  · intro ruleSet
    cases rejections : plan.build.rejected with
    | nil => simp [build?, rejections, eq_comm]
    | cons first others => simp [build?, rejections]
  · intro first others rejections
    simp [build?, rejections]

/-- Loading accounts for every candidate. The candidates are what the inputs offer, in their
order. Each of them gets the right verdict, the loaded rules and the rejections are those of the
verdicts in their order, a loaded rule is the only one of its name and is found by it, and strict
loading fails with the first rejection if there is one.

Proof: the loader takes the candidates from the inputs as they offer them, and its run over them
is the run of the verdicts. -/
theorem build_accounts (plan : RuleSetPlan) :
    ∃ (offers : List (List Candidate)) (verdicts : List Verdict),
      List.Forall₂ RuleInput.Offers plan.inputs offers ∧
      Loaded.Judges plan.schema offers.flatten verdicts ∧
      plan.build.rules = Loaded.rulesOf verdicts ∧
      plan.build.rejected = Loaded.rejectionsOf verdicts ∧
      (plan.build.rules.map Rule.name).Nodup ∧
      (∀ name rule, plan.build.find? name = some rule ↔
        rule ∈ plan.build.rules ∧ rule.name = name) ∧
      (∀ ruleSet, plan.build? = .ok ruleSet ↔
        plan.build.rejected = [] ∧ ruleSet = plan.build) ∧
      (∀ first others, plan.build.rejected = first :: others →
        plan.build? = .error first.fault) := by
  have offers : List.Forall₂ RuleInput.Offers plan.inputs
      (plan.inputs.map RuleInput.candidates) := RuleInput.forall₂_offers_iff.mpr rfl
  obtain ⟨verdicts, judges, distinct, loaded⟩ :=
    Loaded.judges_foldl plan.schema (plan.inputs.flatMap RuleInput.candidates)
  have rules : plan.build.rules = Loaded.rulesOf verdicts := congrArg Loaded.rules loaded
  have rejected : plan.build.rejected = Loaded.rejectionsOf verdicts :=
    congrArg Loaded.rejected loaded
  rw [List.flatMap_def] at judges
  rw [← rules] at distinct
  exact ⟨_, verdicts, offers, judges, rules, rejected, distinct,
    fun _ _ => RuleSet.find?_eq_some_iff distinct, plan.build?_eq⟩

/-- A rule that mentions a name. -/
def namingRule (name : String) : Rule := ⟨name, [.any], .empty, none, .name "label", ""⟩

/-- A rule that mentions no name. -/
def plainRule (name : String) : Rule := ⟨name, [.any], .empty, none, .state .hidden, ""⟩

/-- A plan without names, of a text with two rules, a text that is no rule, and two rules. The
first rule of the text and the last one of the plan mention a name. -/
def mixedPlan : RuleSetPlan where
  inputs := [
    .source ("rule \"a\" on any \x7b ensure: label report: \"\" \x7d" ++
      "rule \"b\" on any \x7b ensure: hidden report: \"\" \x7d"),
    .source "rule",
    .rule (plainRule "a"),
    .rule (namingRule "b")]
  schema := some .empty

end RuleSetPlan

end AnyEngine

/-- Of the five candidates two are loaded. The name of the rejected rule is free for a later one,
and the last rule is rejected for its name, although it mentions one as well. -/
theorem RuleSetPlan.build_accounts_mixedPlan :
    let error : ParseError := ⟨"expected quoted rule name", ⟨4, 1, 5⟩⟩
    ∃ (offers : List (List Candidate)) (verdicts : List Verdict),
      List.Forall₂ RuleInput.Offers mixedPlan.inputs offers ∧
      offers = [[.rule (namingRule "a"), .rule (plainRule "b")], [.unreadable error],
        [.rule (plainRule "a")], [.rule (namingRule "b")]] ∧
      Loaded.Judges mixedPlan.schema offers.flatten verdicts ∧
      Loaded.rulesOf verdicts = [plainRule "b", plainRule "a"] ∧
      Loaded.rejectionsOf verdicts = [⟨"a", .rule (.unknownName "a" "label")⟩,
        ⟨none, .source error⟩, ⟨"b", .rule (.repeatedName "b")⟩] ∧
      mixedPlan.build.find? "a" = some (plainRule "a") ∧
      mixedPlan.build? = .error (.rule (.unknownName "a" "label")) := by
  intro error
  have candidates : mixedPlan.inputs.map RuleInput.candidates =
      [[.rule (namingRule "a"), .rule (plainRule "b")], [.unreadable error],
        [.rule (plainRule "a")], [.rule (namingRule "b")]] := by decide +kernel
  have loaded : mixedPlan.build.rules = [plainRule "b", plainRule "a"] := by decide +kernel
  have refused : mixedPlan.build.rejected = [⟨"a", .rule (.unknownName "a" "label")⟩,
      ⟨none, .source error⟩, ⟨"b", .rule (.repeatedName "b")⟩] := by decide +kernel
  obtain ⟨offers, verdicts, offered, judges, rules, rejected, -, found, -, strict⟩ :=
    build_accounts mixedPlan
  have listed := (RuleInput.forall₂_offers_iff.mp offered).trans candidates
  refine ⟨offers, verdicts, offered, listed, judges, rules ▸ loaded, rejected ▸ refused, ?_, ?_⟩
  · apply (found "a" (plainRule "a")).mpr
    rw [loaded]
    exact ⟨List.mem_of_getLast? rfl, rfl⟩
  · exact strict _ _ refused

end WidgetAudit
