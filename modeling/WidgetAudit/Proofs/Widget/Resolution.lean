import Mathlib.Data.List.Induction
import WidgetAudit.Pattern.GapEngine
import WidgetAudit.Proofs.Evaluation.Dependence

/-!
# Resolved properties

A rule can ask whether a property is resolved, and it can look at its value. For the properties of a
widget the two agree: of all values that have been set under a name only the last one counts, and
the property is resolved exactly if that one is not null.

Three names are read from the node itself and not from its properties. Whether they are resolved is
asked of the properties all the same, and there the two disagree: such a name has a text for its
value, and still it is not resolved unless a property of that name has been set as well.
-/

namespace WidgetAudit

namespace Widget

/-- Set properties one after the other. -/
def setAll (widget : Widget) (settings : List (String × Value)) : Widget :=
  settings.foldl (fun built setting => built.set setting.1 setting.2) widget

/-- A widget has got its properties by setting these, one after the other. -/
def IsSetBy (widget : Widget) (settings : List (String × Value)) : Prop :=
  ∃ new : Widget, new.properties = .empty ∧ widget = new.setAll settings

/-- The last value that is set under a name. -/
def lastSet? (settings : List (String × Value)) (name : String) : Option Value :=
  (settings.reverse.find? fun setting => setting.1 == name).map Prod.snd

/-- Setting a property gives it the value and leaves the other properties alone. -/
theorem find?_set (widget : Widget) (name other : String) (value : Value) :
    (widget.set name value).properties.find? other =
      if name = other then some value else widget.properties.find? other :=
  NameTable.find?_insert widget.properties name other value

/-- Of all values that are set under a name the last one stays.

Induct over the settings from the back: the last one decides, or leaves the question to those
before it. -/
theorem IsSetBy.find?_eq {widget : Widget} {settings : List (String × Value)}
    (isSet : widget.IsSetBy settings) (name : String) :
    widget.properties.find? name = lastSet? settings name := by
  obtain ⟨new, unset, rfl⟩ := isSet
  induction settings using List.reverseRecOn with
  | nil => rw [setAll, List.foldl_nil, unset]; rfl
  | append_singleton earlier setting inductionHypothesis =>
    have step : new.setAll (earlier ++ [setting]) =
        (new.setAll earlier).set setting.1 setting.2 := List.foldl_concat ..
    rw [step, find?_set, inductionHypothesis]
    by_cases same : setting.1 = name <;> simp [lastSet?, same]

/-- A property is resolved if the value last set is not null. -/
theorem IsSetBy.isResolved_iff {widget : Widget} {settings : List (String × Value)}
    (isSet : widget.IsSetBy settings) (name : String) :
    widget.isResolved name = true ↔
      ∃ value, lastSet? settings name = some value ∧ value ≠ .null := by
  rw [isResolved, isSet.find?_eq]
  cases lastSet? settings name with
  | none => simp
  | some value => cases value <;> simp [Value.isNull]

/-- A property is resolved if it is worth something else than null. -/
theorem isResolved_iff (widget : Widget) (name : String) :
    widget.isResolved name = true ↔ (widget.property? name).getD .null ≠ .null := by
  rw [isResolved_eq]
  cases found : widget.property? name with
  | none => simp
  | some value =>
    obtain ⟨-, present⟩ := Option.filter_eq_some_iff.mp found
    have notNull : value ≠ .null := by
      rintro rfl
      cases present
    simpa using notNull

end Widget

namespace Host

variable {ν : Type}

/-- Names that are not read from the node itself are read from its properties. -/
theorem valueOf_of_not_common (host : Host ν) (node : ν) {name : String}
    (own : name ∉ Schema.commonNames) :
    host.valueOf node name = (host.property? node name).getD .null := by
  simp only [Schema.commonNames, List.mem_cons, List.not_mem_nil, or_false, not_or] at own
  obtain ⟨noRole, noWidgetType, noType⟩ := own
  rw [valueOf, if_neg noRole, if_neg (by simp [noWidgetType, noType])]

/-- The names that every node answers to have texts for their values. -/
theorem valueOf_of_common (host : Host ν) (node : ν) {name : String}
    (common : name ∈ Schema.commonNames) : ∃ text, host.valueOf node name = .string text := by
  simp only [Schema.commonNames, List.mem_cons, List.not_mem_nil, or_false] at common
  rcases common with rfl | rfl | rfl
  · exact ⟨_, rfl⟩
  · exact ⟨_, rfl⟩
  · exact ⟨_, rfl⟩

end Host

namespace WidgetTree

section AnyEngine

variable [RegexEngine]

/-- Whether a property is resolved and what it is worth agree at every node of a tree, with one
exception. The property is resolved exactly if the value last set under its name is not null,
however often it has been set before. For all names but three it is then, and only then, worth
something else than null. The three names that every node answers to are always worth a text; so for
them the two agree exactly where a property of that name has been set besides, to a value that is
not null.

Proof: both ways of reading look up the same entry, apart from the three names. -/
theorem resolution_agrees_unless_common (tree : WidgetTree) (node : Nat) (limit : Option Nat)
    (depth : Nat) (name : String) :
    let raw := (Expr.property name .raw).evaluateAt tree.host limit depth node
    let resolved := (Expr.property name .isResolved).evaluateAt tree.host limit depth node
    (∀ settings, (tree.widget node).IsSetBy settings →
      (resolved = .ok (.bool true) ↔
        ∃ value, Widget.lastSet? settings name = some value ∧ value ≠ .null)) ∧
    ((resolved = .ok (.bool true) ↔ raw ≠ .ok .null) ↔
      (name ∈ Schema.commonNames → resolved = .ok (.bool true))) ∧
    (name ∈ Schema.commonNames → ∃ text, raw = .ok (.string text)) := by
  intro raw resolved
  have asked : resolved = .ok (.bool true) ↔ (tree.widget node).isResolved name = true := by
    simp [resolved, Expr.evaluateAt, Host.read, host, plainHost]
  have read : raw = .ok (tree.host.valueOf node name) := by
    simp only [raw, Expr.evaluateAt, Host.read]
  refine ⟨fun settings isSet => asked.trans (isSet.isResolved_iff name), ?_, fun common => ?_⟩
  · by_cases common : name ∈ Schema.commonNames
    · obtain ⟨text, isText⟩ := tree.host.valueOf_of_common node common
      have notNull : raw ≠ .ok .null := by simp [read, isText]
      simp [common, notNull]
    · have own : tree.host.valueOf node name = ((tree.widget node).property? name).getD .null :=
        tree.host.valueOf_of_not_common node common
      have agree : resolved = .ok (.bool true) ↔ raw ≠ .ok .null := by
        rw [asked, Widget.isResolved_iff, read, own, ne_eq, ne_eq, Except.ok.injEq]
      exact iff_of_true agree fun isCommon => absurd isCommon common
  · obtain ⟨text, isText⟩ := tree.host.valueOf_of_common node common
    exact ⟨text, by rw [read, isText]⟩

end AnyEngine

/-- A label that has been overwritten by null is not resolved; a role that has been set among the
properties is, and the role of the node is a text. -/
theorem resolution_agrees_unless_common_overwritten :
    let settings : List (String × Value) :=
      [("label", .string "OK"), ("role", .string "button"), ("label", .null)]
    let label : Widget := Widget.setAll { role := "text", type := "Label" } settings
    let outcome (name : String) (access : PropertyAccess) := (Expr.property name access).evaluateAt
      (ofNested (.node label [])).host none 0 0
    outcome "label" .isResolved ≠ .ok (.bool true) ∧ outcome "label" .raw = .ok .null ∧
      outcome "role" .isResolved = .ok (.bool true) ∧
      ∃ text, outcome "role" .raw = .ok (.string text) := by
  intro settings label outcome
  have isSet : ((ofNested (.node label [])).widget 0).IsSetBy settings := ⟨_, rfl, rfl⟩
  obtain ⟨labelHistory, labelAgrees, -⟩ :=
    resolution_agrees_unless_common (ofNested (.node label [])) 0 none 0 "label"
  obtain ⟨roleHistory, -, roleText⟩ :=
    resolution_agrees_unless_common (ofNested (.node label [])) 0 none 0 "role"
  have unresolved : outcome "label" .isResolved ≠ .ok (.bool true) := by
    intro resolved
    obtain ⟨value, last, notNull⟩ := (labelHistory settings isSet).mp resolved
    exact notNull (Option.some.inj last).symm
  refine ⟨unresolved, ?_, (roleHistory settings isSet).mpr ⟨.string "button", rfl, nofun⟩,
    roleText (by decide)⟩
  have agree := labelAgrees.mpr fun common => absurd common (by decide)
  exact not_not.mp fun notNull => unresolved (agree.mpr notNull)

/-- The role of a node is a text and counts as not resolved. -/
theorem role_has_value_unresolved :
    let button : Widget := { role := "button", type := "B" }
    let outcome (access : PropertyAccess) := (Expr.property "role" access).evaluateAt
      (ofNested (.node button [])).host none 0 0
    outcome .raw = .ok (.string "button") ∧ outcome .isResolved = .ok (.bool false) ∧
      ¬(outcome .isResolved = .ok (.bool true) ↔ outcome .raw ≠ .ok .null) := by
  intro button outcome
  have raw : outcome .raw = .ok (.string "button") := rfl
  have resolved : outcome .isResolved = .ok (.bool false) := rfl
  refine ⟨raw, resolved, fun agree => ?_⟩
  have wrong := agree.mpr (by simp [raw])
  rw [resolved] at wrong
  cases wrong

end WidgetTree

end WidgetAudit
