import WidgetAudit.Pattern.GapEngine
import WidgetAudit.Proofs.Expr.Mentions
import WidgetAudit.Proofs.RuleSet.Widening

/-!
# The names in a rule

A rule asks for names in its guard and in its assertion, wherever they stand there: under signs and
operators, in the subject of a search, in the body of a quantifier. `Rule.names` lists them from left
to right, each as often as it occurs, and knows nothing of schemas. The check of a rule walks through
the same expressions and stops at the first name that its schema does not allow; that name is the
first of the list that is not allowed, whatever the walk has left out behind it.
-/

namespace WidgetAudit

namespace Rule

section AnyEngine

variable [RegexEngine]

/-- Of the names in a rule, the one at a place is the first that a schema does not allow. -/
structure FirstUnknown (rule : Rule) (schema : Schema) (place : Nat) (name : String) : Prop where
  stands : rule.names[place]? = some name
  unknown : schema.allows name = false
  known : ∀ earlier < place, ∀ other, rule.names[earlier]? = some other →
    schema.allows other = true

section FirstUnknown

variable {rule : Rule} {schema : Schema} {place : Nat} {name : String}

/-- The walk stops at the first unknown name. -/
theorem FirstUnknown.unknownName?_eq (first : rule.FirstUnknown schema place name) :
    rule.unknownName? schema = some name := by
  obtain ⟨inside, stands⟩ := List.getElem?_eq_some_iff.mp first.stands
  rw [unknownName?_eq_find?, List.find?_eq_some_iff_getElem]
  refine ⟨by simp [first.unknown], place, inside, stands, fun earlier before => ?_⟩
  have known := first.known earlier before _
    (List.getElem?_eq_getElem (Nat.lt_trans before inside))
  simp [known]

/-- Where the walk stops, there is a first unknown name. -/
theorem exists_firstUnknown (found : rule.unknownName? schema = some name) :
    ∃ place, rule.FirstUnknown schema place name := by
  rw [unknownName?_eq_find?, List.find?_eq_some_iff_getElem] at found
  obtain ⟨unknown, place, inside, stands, known⟩ := found
  refine ⟨place, List.getElem?_eq_some_iff.mpr ⟨inside, stands⟩, by simpa using unknown, ?_⟩
  intro earlier before other otherStands
  obtain ⟨-, rfl⟩ := List.getElem?_eq_some_iff.mp otherStands
  simpa using known earlier before

/-- A wider schema has its first unknown name at the same place or at a later one. -/
theorem FirstUnknown.le {wide : Schema} {later : Nat} {other : String}
    (first : rule.FirstUnknown schema place name) (within : schema.Within (some wide))
    (wideFirst : rule.FirstUnknown wide later other) : place ≤ later := by
  refine Nat.le_of_not_lt fun earlier => ?_
  have known := first.known later earlier other wideFirst.stands
  have unknown := wideFirst.unknown
  rw [within other known] at unknown
  cases unknown

/-- The check of a rule with selectors fails at the first unknown name, and only there. -/
theorem validate_eq_error_iff {fault : RuleFault} (selected : rule.selectors ≠ []) :
    rule.validate schema = .error fault ↔
      ∃ place name, rule.FirstUnknown schema place name ∧ fault = .unknownName rule.name name := by
  have someSelector : rule.selectors.isEmpty = false := by simpa using selected
  rw [validate, someSelector]
  cases found : rule.unknownName? schema with
  | none =>
    simp only [Bool.false_eq_true, if_false, reduceCtorEq, false_iff]
    rintro ⟨place, name, first, -⟩
    cases found.symm.trans first.unknownName?_eq
  | some name =>
    simp only [Bool.false_eq_true, if_false, Except.error.injEq]
    constructor
    · rintro rfl
      obtain ⟨place, first⟩ := exists_firstUnknown found
      exact ⟨place, name, first, rfl⟩
    · rintro ⟨place, other, first, rfl⟩
      rw [Option.some.inj (found.symm.trans first.unknownName?_eq)]

end FirstUnknown

/-- The check of a rule reports exactly the first unknown name. A rule without selectors is refused
for that, whatever names it has. Any other rule passes exactly if every name in its guard and in its
assertion is allowed, and the fault of one that does not pass names the rule and the first of these
names, from left to right, that is not. So when the schema is made wider, the rule passes, or it
fails at the same name of the list or at a later one.

Proof: the walk through the expressions is a search in the list of their names. -/
theorem validate_reports_first_unknown (rule : Rule) (schema : Schema) :
    (rule.selectors = [] → rule.validate schema = .error (.noSelectors rule.name)) ∧
    (rule.selectors ≠ [] →
      (rule.validate schema = .ok () ↔ ∀ name ∈ rule.names, schema.allows name = true) ∧
      (∀ fault, rule.validate schema = .error fault ↔
        ∃ place name, rule.FirstUnknown schema place name ∧
          fault = .unknownName rule.name name) ∧
      ∀ wide place name, schema.Within (some wide) → rule.FirstUnknown schema place name →
        rule.validate wide = .ok () ∨
          ∃ later other, place ≤ later ∧ rule.FirstUnknown wide later other ∧
            rule.validate wide = .error (.unknownName rule.name other)) := by
  refine ⟨?_, fun selected => ⟨?_, fun fault => validate_eq_error_iff selected, ?_⟩⟩
  · intro unselected
    rw [validate, unselected]
    rfl
  · rw [validate_eq_ok_iff]
    simp only [← mem_names_iff]
    exact and_iff_right selected
  · intro wide place name within first
    cases checked : rule.validate wide with
    | ok passed => exact .inl rfl
    | error fault =>
      obtain ⟨later, other, wideFirst, rfl⟩ := (validate_eq_error_iff selected).mp checked
      exact .inr ⟨later, other, first.le within wideFirst, wideFirst, rfl⟩

/-- A rule with one name in the body of a quantifier in its guard, and another one in its
assertion. -/
def titledParts : Rule where
  name := "titled"
  selectors := [.any]
  details := .empty
  guard := some (.quantified .children .any
    (.binary .greater (.unary .negate (.name "size")) (.literal (.int 1))))
  ensure := .property "title" .isResolved
  report := "untitled part"

end AnyEngine

/-- Once its first name is registered, the rule is refused for its second one. -/
theorem validate_reports_first_unknown_titledParts :
    titledParts.names = ["size", "title"] ∧
      titledParts.validate .empty = .error (.unknownName "titled" "size") ∧
      titledParts.validate (Schema.empty.register "size") =
        .error (.unknownName "titled" "title") := by
  have selected : titledParts.selectors ≠ [] := by decide
  obtain ⟨-, reports, widens⟩ :=
    (validate_reports_first_unknown titledParts .empty).2 selected
  have first : titledParts.FirstUnknown .empty 0 "size" :=
    ⟨by decide, by decide, fun earlier before => absurd before (Nat.not_lt_zero earlier)⟩
  have within : Schema.empty.Within (some (Schema.empty.register "size")) :=
    Schema.empty.within_register "size"
  refine ⟨by decide, (reports _).mpr ⟨0, "size", first, rfl⟩, ?_⟩
  rcases widens _ 0 "size" within first with passed | ⟨later, other, -, wideFirst, reported⟩
  · cases passed
  · have second : titledParts.unknownName? (Schema.empty.register "size") = some "title" := by
      decide
    obtain rfl := Option.some.inj (wideFirst.unknownName?_eq.symm.trans second)
    exact reported

end Rule

end WidgetAudit
