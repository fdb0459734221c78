import WidgetAudit.RuleSet

/-!
# What admitted rules satisfy

A rule set keeps a rule only behind its check. The invariant of loading is that every rule
loaded so far has passed the check in force; a candidate either passes it and is appended,
or is rejected and leaves the rules as they were.
-/

namespace WidgetAudit.Loaded

variable [RegexEngine]

/-- Every loaded rule has passed the check against the schema, or the check for a selector
where there is none. -/
def AllChecked (schema : Option Schema) (loaded : Loaded) : Prop :=
  ∀ rule ∈ loaded.rules, check schema rule = .ok ()

/-- Only a rule that passes the check is accepted. -/
theorem check_of_accept {schema : Option Schema} {loaded : Loaded} {rule : Rule}
    (accepted : loaded.accept schema rule = .ok ()) : check schema rule = .ok () := by
  unfold accept at accepted
  split at accepted
  · cases accepted
  · exact accepted

/-- Loading one more candidate keeps the invariant. -/
theorem AllChecked.add {schema : Option Schema} {loaded : Loaded}
    (checked : loaded.AllChecked schema) (candidate : Candidate) :
    (loaded.add schema candidate).AllChecked schema := by
  cases candidate with
  | unreadable error => exact checked
  | rule rule =>
    cases verdict : loaded.accept schema rule with
    | error fault =>
      simp only [Loaded.add, verdict]
      exact checked
    | ok =>
      intro kept member
      simp only [Loaded.add, verdict, List.mem_append, List.mem_singleton] at member
      rcases member with before | rfl
      · exact checked kept before
      · exact check_of_accept verdict

/-- Whatever the inputs are, every loaded rule has passed the check in force. -/
theorem allChecked_ofInputs (schema : Option Schema) (inputs : List RuleInput) :
    (ofInputs schema inputs).AllChecked schema := by
  have kept (candidates : List Candidate) (loaded : Loaded)
      (checked : loaded.AllChecked schema) :
      (candidates.foldl (Loaded.add schema) loaded).AllChecked schema := by
    induction candidates generalizing loaded with
    | nil => exact checked
    | cons candidate others inductionHypothesis =>
      exact inductionHypothesis _ (checked.add candidate)
  refine kept _ _ ?_
  intro rule member
  cases member

end WidgetAudit.Loaded

namespace WidgetAudit.RuleSetPlan

variable [RegexEngine]

/-- A rule set that was loaded with a schema, leniently or strictly, holds only rules that
are valid for it. The strict way returns what the lenient one builds. -/
theorem valid_of_loaded {plan : RuleSetPlan} {schema : Schema} {ruleSet : RuleSet}
    (withSchema : plan.schema = some schema)
    (loaded : ruleSet = plan.build ∨ plan.build? = .ok ruleSet) :
    ∀ rule ∈ ruleSet.rules, rule.validate schema = .ok () := by
  have built : ruleSet = plan.build := by
    rcases loaded with built | strict
    · exact built
    · dsimp only [build?] at strict
      split at strict
      · exact (Except.ok.inj strict).symm
      · cases strict
  intro rule member
  have checked := Loaded.allChecked_ofInputs (some schema) plan.inputs
  rw [built] at member
  simp only [build, withSchema] at member
  exact checked rule member

end WidgetAudit.RuleSetPlan
