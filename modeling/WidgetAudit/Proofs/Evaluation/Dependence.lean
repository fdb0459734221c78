import WidgetAudit.Pattern.GapEngine
import WidgetAudit.Proofs.Evaluation.Simulation
import WidgetAudit.Proofs.RuleSet.Admission

/-!
# What a rule depends on

A rule that is valid for a schema cannot tell two trees apart that differ only in
properties whose names the schema does not allow. The check is done once, on the text of
the rule; the evaluator may read a node's properties at any of the nodes that a quantifier
leads to, through a bare name, a cast or the question whether there is a value.

Two hosts agree on a schema if they answer every question alike, apart from those about
names that the schema does not allow. Then every node of the one simulates itself on the
other, for all that a valid rule mentions, so both evaluations give the same value or end
with the same fault. What is true of hosts is then read off for trees.
-/

namespace WidgetAudit

/-! ### Hosts that agree -/

/-- Two hosts answer alike, except about properties that the schema does not allow. -/
structure Host.AgreeOn {ν : Type} (schema : Schema) (first second : Host ν) : Prop where
  role : first.role = second.role
  type : first.type = second.type
  holds : first.holds = second.holds
  related : first.related = second.related
  size : first.size = second.size
  property : ∀ node name, schema.allows name = true →
    first.property? node name = second.property? node name
  resolved : ∀ node name, schema.allows name = true →
    first.isResolved node name = second.isResolved node name

section Hosts

variable {ν : Type} {schema : Schema} {first second : Host ν}

/-- A schema admits every mention, apart from names that it does not allow. -/
def Mention.AllowedBy (schema : Schema) : Mention → Prop
  | .name identifier => schema.allows identifier = true
  | .state _ | .relation _ => True

/-- On hosts that agree every node simulates itself, for what the schema admits. -/
theorem Host.AgreeOn.simulates (agree : Host.AgreeOn schema first second) :
    first.Simulates second (Mention.AllowedBy schema) Eq where
  role := by
    rintro node _ rfl
    rw [agree.role]
  type := by
    rintro node _ rfl
    rw [agree.type]
  holds := by
    rintro node _ rfl fact _
    rw [agree.holds]
  property := by
    rintro node _ rfl name allowed
    exact agree.property node name allowed
  resolved := by
    rintro node _ rfl name allowed
    exact agree.resolved node name allowed
  related := by
    rintro node _ rfl relation _
    rw [agree.related, List.forall₂_eq_eq_eq]

/-- The sweeps of two hosts that agree visit the same nodes. -/
theorem Host.AgreeOn.preOrder_eq (agree : Host.AgreeOn schema first second) (root : ν) :
    first.preOrder root = second.preOrder root := by
  have visited := agree.simulates.sweep trivial second.size (.cons (rfl : root = root) .nil)
  rw [List.forall₂_eq_eq_eq] at visited
  rw [Host.preOrder, Host.preOrder, agree.size]
  exact visited

variable [RegexEngine]

/-- A valid rule mentions nothing that the schema does not admit. -/
theorem Rule.mentions_allowed {rule : Rule} (valid : rule.validate schema = .ok ()) :
    ∀ mention ∈ rule.mentions, mention.AllowedBy schema := by
  obtain ⟨-, known⟩ := Rule.validate_eq_ok_iff.mp valid
  intro mention member
  cases mention with
  | name name => exact known name member
  | state _ => trivial
  | relation _ => trivial

/-- A valid rule comes to the same verdict, or the same fault, on both hosts. -/
theorem Interpreter.evaluate_eq (agree : Host.AgreeOn schema first second)
    (interpreter : Interpreter) {rule : Rule} (valid : rule.validate schema = .ok ())
    (node : ν) : interpreter.evaluate first rule node = interpreter.evaluate second rule node :=
  agree.simulates.evaluate_eq interpreter (Rule.mentions_allowed valid) rfl

/-- A set of valid rules finds the same on both hosts, in any row of nodes. -/
theorem RuleSet.audit_eq (agree : Host.AgreeOn schema first second) {ruleSet : RuleSet}
    (valid : ∀ rule ∈ ruleSet.rules, rule.validate schema = .ok ()) (nodes : List ν) :
    ruleSet.audit first nodes = ruleSet.audit second nodes := by
  refine agree.simulates.audit_eq (fun rule member => Rule.mentions_allowed (valid rule member)) ?_
  rw [List.forall₂_eq_eq_eq]

end Hosts

/-! ### Trees that agree -/

/-- Two widgets are alike, except for properties that the schema does not allow. A property
that is set to null counts as absent, as it does for every rule. -/
structure Widget.AgreeOn (schema : Schema) (first second : Widget) : Prop where
  role : first.role = second.role
  type : first.type = second.type
  focusable : first.focusable = second.focusable
  enabled : first.enabled = second.enabled
  hidden : first.hidden = second.hidden
  checked : first.checked = second.checked
  toggled : first.toggled = second.toggled
  mergesDescendants : first.mergesDescendants = second.mergesDescendants
  hasTap : first.hasTap = second.hasTap
  hasLongPress : first.hasLongPress = second.hasLongPress
  property : ∀ name, schema.allows name = true →
    first.property? name = second.property? name

/-- Two trees have the same shape and carry widgets that are alike, node by node, except
for properties that the schema does not allow. -/
structure WidgetTree.AgreeOn (schema : Schema) (first second : WidgetTree) : Prop where
  size : first.size = second.size
  parents : ∀ node, first.parent? node = second.parent? node
  children : ∀ node, first.children node = second.children node
  widgets : ∀ node, (first.widget node).AgreeOn schema (second.widget node)

/-- A property has a value exactly if it is neither absent nor null. -/
theorem Widget.isResolved_eq (widget : Widget) (name : String) :
    widget.isResolved name = (widget.property? name).isSome := by
  unfold isResolved property?
  cases widget.properties.find? name with
  | none => rfl
  | some value => cases value <;> rfl

namespace WidgetTree.AgreeOn

variable {schema : Schema} {first second : WidgetTree}

/-- The way up leads over the same nodes. -/
theorem ancestors_eq (agree : first.AgreeOn schema second) (node : Nat) :
    first.ancestors node = second.ancestors node := by
  induction node using Nat.strongRecOn with
  | _ node inductionHypothesis =>
    rw [ancestors, ancestors.eq_def second, agree.parents node]
    split
    · rfl
    · split
      · rename_i parent _ smaller
        rw [inductionHypothesis parent smaller]
      · rfl

/-- The other children of the parent are the same. -/
theorem siblings_eq (agree : first.AgreeOn schema second) (node : Nat) :
    first.siblings node = second.siblings node := by
  simp only [siblings, agree.parents node, agree.children]

/-- The focus stops at the same nodes, since it looks at flags only. -/
theorem isFocusStop_eq (agree : first.AgreeOn schema second) :
    first.isFocusStop = second.isFocusStop := by
  funext node
  simp only [isFocusStop, Widget.isFocusStop, (agree.widgets node).focusable,
    (agree.widgets node).hidden]

/-- Trees that agree are hosts that agree: of all that a host answers, only properties are
not determined by the shape, the roles, the types and the flags. -/
theorem host (agree : first.AgreeOn schema second) :
    Host.AgreeOn schema first.host second.host where
  role := funext fun node => (agree.widgets node).role
  type := funext fun node => (agree.widgets node).type
  holds := by
    funext node fact
    have alike := agree.widgets node
    cases fact <;>
      simp only [Host.holds, WidgetTree.host, plainHost, alike.focusable, alike.enabled,
        alike.hidden, alike.checked, alike.toggled, alike.mergesDescendants, alike.hasTap,
        alike.hasLongPress, agree.children]
  related := by
    funext node relation
    cases relation with
    | children => exact agree.children node
    | ancestors => exact agree.ancestors_eq node
    | siblings => exact agree.siblings_eq node
    | nextFocus =>
      simp only [Host.related, WidgetTree.host, nextFocus, agree.size, agree.isFocusStop_eq]
    | previousFocus =>
      simp only [Host.related, WidgetTree.host, previousFocus, agree.isFocusStop_eq]
  size := agree.size
  property := fun node name allowed => (agree.widgets node).property name allowed
  resolved := by
    intro node name allowed
    simp only [WidgetTree.host, plainHost, Widget.isResolved_eq,
      (agree.widgets node).property name allowed]

end WidgetTree.AgreeOn

section AnyEngine

variable [RegexEngine]

/-- A valid rule depends only on what its schema allows. On two trees that agree on the
schema it has the same verdict or the same fault at every node, whatever the kinds and the
limit on quantifiers are; and a rule set that was loaded with the schema reports the same
violations and faults and counts the same nodes, over any row of nodes and below any node.

Proof: the trees are hosts that agree, and loading keeps only valid rules. -/
theorem verdict_depends_on_schema (schema : Schema) (first second : WidgetTree)
    (agree : first.AgreeOn schema second) :
    (∀ rule : Rule, rule.validate schema = .ok () → ∀ (interpreter : Interpreter) (node : Nat),
      interpreter.evaluate first.host rule node = interpreter.evaluate second.host rule node) ∧
    (∀ (plan : RuleSetPlan) (ruleSet : RuleSet), plan.schema = some schema →
      (ruleSet = plan.build ∨ plan.build? = .ok ruleSet) →
      (∀ nodes, ruleSet.audit first.host nodes = ruleSet.audit second.host nodes) ∧
      ∀ root, ruleSet.auditTree first.host root = ruleSet.auditTree second.host root) := by
  have hosts : Host.AgreeOn schema first.host second.host := agree.host
  constructor
  · intro rule valid interpreter node
    exact Interpreter.evaluate_eq hosts interpreter valid node
  · intro plan ruleSet withSchema loaded
    have valid := RuleSetPlan.valid_of_loaded withSchema loaded
    have same : ∀ nodes, ruleSet.audit first.host nodes = ruleSet.audit second.host nodes :=
      RuleSet.audit_eq hosts valid
    refine ⟨same, ?_⟩
    intro root
    rw [RuleSet.auditTree, RuleSet.auditTree, hosts.preOrder_eq root, same]

/-- A schema with one name. -/
def labels : Schema := Schema.empty.register "label"

/-- A list with one labelled button in it, which also carries a note. -/
def noted (note : String) : WidgetTree :=
  .ofNested <| .node { role := "list", type := "ListView" }
    [.node ((Widget.set { role := "button", type := "Button" } "label" (.string "OK")).set
      "note" (.string note)) []]

/-- A rule about the labels of a node's children. -/
def labelledChildren : Rule :=
  ⟨"labelled", [.any], .empty, none,
    .quantified .children .all (.property "label" .isResolved), "a child has no label"⟩

end AnyEngine

/-- The schema of labels does not allow notes, so a rule that is valid for it has the same
outcome whatever the note says. -/
theorem verdict_ignores_notes :
    (noted "first").AgreeOn labels (noted "second") ∧
      labelledChildren.validate labels = .ok () ∧
      ∀ (interpreter : Interpreter) (node : Nat),
        interpreter.evaluate (noted "first").host labelledChildren node =
          interpreter.evaluate (noted "second").host labelledChildren node := by
  have alike (node : Nat) : ((noted "first").widget node).AgreeOn labels
      ((noted "second").widget node) := by
    rcases node with _ | _ | node
    · exact ⟨rfl, rfl, rfl, rfl, rfl, rfl, rfl, rfl, rfl, rfl, fun _ _ => rfl⟩
    · refine ⟨rfl, rfl, rfl, rfl, rfl, rfl, rfl, rfl, rfl, rfl, ?_⟩
      intro name allowed
      have different : "note" ≠ name := by
        rintro rfl
        exact absurd allowed (by decide)
      change Widget.property? (Widget.set _ "note" _) name =
        Widget.property? (Widget.set _ "note" _) name
      simp only [Widget.property?, Widget.set, NameTable.find?_insert, if_neg different]
    · exact ⟨rfl, rfl, rfl, rfl, rfl, rfl, rfl, rfl, rfl, rfl, fun _ _ => rfl⟩
  have agree : (noted "first").AgreeOn labels (noted "second") := by
    refine ⟨rfl, ?_, ?_, alike⟩
    · rintro (_ | _ | node) <;> rfl
    · rintro (_ | _ | node) <;> rfl
  exact ⟨agree, by decide, (verdict_depends_on_schema labels _ _ agree).1 labelledChildren
    (by decide)⟩

end WidgetAudit
