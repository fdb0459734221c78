import WidgetAudit.Pattern.GapEngine
import WidgetAudit.Proofs.Expr.Mentions
import WidgetAudit.Proofs.RuleSet.Accounting

/-!
# Loading with a wider schema

A schema that allows more names lets more rules pass. Not every rule that was loaded is still
loaded then: an earlier rule of the same name may now fit, and take the name. But the name stays
loaded, and the rule that has it stands no later than before. For a name belongs to the first
candidate of that name that fits, and a candidate that fits goes on to do so.
-/

namespace WidgetAudit

/-- A schema allows only what another one allows, or there is no other one. -/
def Schema.Within (narrow : Schema) : Option Schema → Prop
  | some wide => ∀ name, narrow.allows name = true → wide.allows name = true
  | none => True

/-- Registering a name takes none away. -/
theorem Schema.within_register (schema : Schema) (name : String) :
    schema.Within (some (schema.register name)) := by
  intro other allowed
  simp only [allows, Bool.or_eq_true, isRegistered, NameTable.contains] at allowed ⊢
  apply allowed.imp_right
  intro registered
  rw [register, NameTable.find?_insert]
  split
  · rfl
  · exact registered

namespace Loaded

variable [RegexEngine]

/-- What fits a schema fits a wider one, and it fits where there is none. -/
theorem Fits.widen {narrow : Schema} {wide : Option Schema} (within : narrow.Within wide)
    {rule : Rule} (fits : Fits (some narrow) rule) : Fits wide rule := by
  obtain ⟨selected, known⟩ := Rule.validate_eq_ok_iff.mp fits
  cases wide with
  | none => exact selected
  | some wide =>
    apply Rule.validate_eq_ok_iff.mpr
    exact ⟨selected, fun name mentioned => within name (known name mentioned)⟩

/-- The name of a rule that fits is loaded from the place of the rule, unless it has been loaded
from an earlier one. -/
theorem Judges.exists_loaded {schema : Option Schema} {candidates : List Candidate}
    {verdicts : List Verdict} (judges : Judges schema candidates verdicts) {place : Nat}
    {rule : Rule} (offered : candidates[place]? = some (.rule rule)) (fits : Fits schema rule) :
    ∃ earlier ≤ place, ∃ other, verdicts[earlier]? = some (.ok other) ∧ other.name = rule.name := by
  have inside : place < verdicts.length := by
    rw [judges.length_eq]
    exact (List.getElem?_eq_some_iff.mp offered).1
  have given := List.getElem?_eq_getElem inside
  obtain ⟨loads, -, -⟩ := judges.judged offered given
  by_cases taken : Taken (verdicts.take place) rule.name
  · obtain ⟨other, listed, named⟩ := taken
    obtain ⟨earlier, found⟩ := List.mem_iff_getElem?.mp listed
    rw [List.getElem?_take] at found
    split at found
    · rename_i before
      exact ⟨earlier, Nat.le_of_lt before, other, found, named⟩
    · cases found
  · refine ⟨place, Nat.le_refl place, rule, ?_, rfl⟩
    rw [given, loads.mpr ⟨taken, fits⟩]

end Loaded

namespace RuleSetPlan

section AnyEngine

variable [RegexEngine]

/-- The plan with another schema, or without one. -/
def under (plan : RuleSetPlan) (schema : Option Schema) : RuleSetPlan := { plan with schema }

/-- A wider schema never loses a name. Of the same inputs, every name that is loaded with a schema
is loaded with a wider one, and also without any, and the candidate that it is loaded from stands
at the same place or at an earlier one.

Proof: a rule that is loaded fits the schema, so it fits the wider one; its name is loaded from its
place at the latest. -/
theorem widening_keeps_names (plan : RuleSetPlan) (narrow : Schema) (wide : Option Schema)
    (within : narrow.Within wide) :
    ∃ narrowVerdicts wideVerdicts : List Verdict,
      Loaded.Judges (some narrow) (plan.inputs.flatMap RuleInput.candidates) narrowVerdicts ∧
      Loaded.Judges wide (plan.inputs.flatMap RuleInput.candidates) wideVerdicts ∧
      (plan.under (some narrow)).build.rules = Loaded.rulesOf narrowVerdicts ∧
      (plan.under wide).build.rules = Loaded.rulesOf wideVerdicts ∧
      (∀ (place : Nat) (rule : Rule), narrowVerdicts[place]? = some (.ok rule) →
        ∃ earlier ≤ place, ∃ other, wideVerdicts[earlier]? = some (.ok other) ∧
          other.name = rule.name) ∧
      ∀ rule ∈ (plan.under (some narrow)).build.rules,
        ∃ other ∈ (plan.under wide).build.rules, other.name = rule.name := by
  let candidates := plan.inputs.flatMap RuleInput.candidates
  obtain ⟨narrowVerdicts, narrowJudges, -, narrowLoaded⟩ :=
    Loaded.judges_foldl (some narrow) candidates
  obtain ⟨wideVerdicts, wideJudges, -, wideLoaded⟩ := Loaded.judges_foldl wide candidates
  have narrowRules : (plan.under (some narrow)).build.rules = Loaded.rulesOf narrowVerdicts :=
    congrArg Loaded.rules narrowLoaded
  have wideRules : (plan.under wide).build.rules = Loaded.rulesOf wideVerdicts :=
    congrArg Loaded.rules wideLoaded
  have keeps : ∀ (place : Nat) (rule : Rule), narrowVerdicts[place]? = some (.ok rule) →
      ∃ earlier ≤ place, ∃ other, wideVerdicts[earlier]? = some (.ok other) ∧
        other.name = rule.name := by
    intro place rule loaded
    have inside : place < candidates.length := by
      rw [← narrowJudges.length_eq]
      exact (List.getElem?_eq_some_iff.mp loaded).1
    have offered := List.getElem?_eq_getElem inside
    obtain ⟨same, -, fits⟩ := (narrowJudges.judged offered loaded).loads
    rw [same] at offered
    exact wideJudges.exists_loaded offered (fits.widen within)
  refine ⟨narrowVerdicts, wideVerdicts, narrowJudges, wideJudges, narrowRules, wideRules, keeps, ?_⟩
  intro rule member
  rw [narrowRules, Loaded.mem_rulesOf] at member
  obtain ⟨place, loaded⟩ := List.mem_iff_getElem?.mp member
  obtain ⟨earlier, -, other, kept, named⟩ := keeps place rule loaded
  rw [wideRules]
  exact ⟨other, Loaded.mem_rulesOf.mpr (List.mem_of_getElem? kept), named⟩

/-- Two rules of one name, of which only the second one does without another name. -/
def contestedPlan : RuleSetPlan where
  inputs := [.rule ⟨"a", [.any], .empty, none, .name "label", "no label"⟩,
    .rule ⟨"a", [.any], .empty, none, .state .enabled, "not enabled"⟩]

end AnyEngine

/-- The wider schema lets the first rule pass, which takes the name from the second one. -/
theorem widening_keeps_names_contestedPlan :
    let labels := Schema.empty.register "label"
    Schema.empty.Within (some labels) ∧
      (contestedPlan.under (some .empty)).build.rules.map Rule.ensure = [.state .enabled] ∧
      (contestedPlan.under (some labels)).build.rules.map Rule.ensure = [.name "label"] ∧
      ∀ rule ∈ (contestedPlan.under (some .empty)).build.rules,
        ∃ other ∈ (contestedPlan.under (some labels)).build.rules, other.name = rule.name := by
  intro labels
  have within : Schema.empty.Within (some labels) := Schema.empty.within_register "label"
  obtain ⟨_, _, _, _, _, _, _, kept⟩ :=
    widening_keeps_names contestedPlan .empty (some labels) within
  exact ⟨within, by decide, by decide, kept⟩

end RuleSetPlan

end WidgetAudit
