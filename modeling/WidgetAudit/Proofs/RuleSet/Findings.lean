import WidgetAudit.Pattern.GapEngine
import WidgetAudit.Proofs.RuleSet.Accounting
import WidgetAudit.Proofs.RuleSet.Reports
import WidgetAudit.Widget.Tree

/-!
# What an audit reports

An audit asks every loaded rule about every node of a row. What it reports of one rule at one
node is decided by that rule and that node alone: one violation, one fault, or nothing. The rule
is known by its name and the node by its place, and that is enough, because loading admits a
name only once.

All findings stand in one order, by places and then by the positions of the rules, in which no
pair comes twice. Violations and faults are the two halves of that list, so each of them has the
order, and no pair is in both.
-/

namespace WidgetAudit

/-! ### Pairs of a rule and a place -/

/-- What a violation is about: a rule, by its name, and a place in the row. -/
def Violation.pair (found : Violation) : String × Nat := (found.rule, found.index)

/-- What a fault is about. -/
def Fault.pair (found : Fault) : String × Nat := (found.rule, found.index)

/-- What a finding is about. -/
def Finding.pair : Finding → String × Nat
  | .violation found => found.pair
  | .fault found => found.pair

/-- What a report says about a pair. -/
def AuditReport.about (report : AuditReport) (pair : String × Nat) :
    List Violation × List Fault :=
  (report.violations.filter (·.pair = pair), report.faults.filter (·.pair = pair))

/-- A violation is the finding that it came from. -/
theorem Finding.violation?_eq_some_iff {finding : Finding} {found : Violation} :
    finding.violation? = some found ↔ finding = .violation found := by
  cases finding <;> simp [violation?]

/-- A fault is the finding that it came from. -/
theorem Finding.fault?_eq_some_iff {finding : Finding} {found : Fault} :
    finding.fault? = some found ↔ finding = .fault found := by
  cases finding <;> simp [fault?]

/-- Violations and faults together are about the pairs that the findings are about. -/
theorem Finding.pairs_perm (findings : List Finding) :
    ((findings.filterMap Finding.violation?).map Violation.pair ++
      (findings.filterMap Finding.fault?).map Fault.pair).Perm (findings.map Finding.pair) := by
  induction findings with
  | nil => exact .refl _
  | cons finding others inductionHypothesis =>
    cases finding with
    | violation found => exact inductionHypothesis.cons found.pair
    | fault found => exact List.perm_middle.trans (inductionHypothesis.cons found.pair)

/-- The violations about a pair are those among the findings about it, and so are the faults. -/
theorem Finding.filter_filterMap {α : Type} (select : Finding → Option α)
    (pairOf : α → String × Nat)
    (keeps : ∀ finding found, select finding = some found → pairOf found = finding.pair)
    (findings : List Finding) (pair : String × Nat) :
    (findings.filterMap select).filter (pairOf · = pair) =
      (findings.filter (·.pair = pair)).filterMap select := by
  rw [List.filter_filterMap, List.filterMap_filter]
  refine List.filterMap_congr fun finding _ => ?_
  cases selected : select finding with
  | none => simp
  | some found =>
    have same := keeps finding found selected
    by_cases about : finding.pair = pair <;> simp [same, about]

/-- Where every pair comes once, an entry is all that there is about its pair. -/
theorem filter_pair_of_mem {α : Type} {pair : α → String × Nat} {entries : List α}
    (once : (entries.map pair).Nodup) {entry : α} (member : entry ∈ entries) :
    entries.filter (pair · = pair entry) = [entry] := by
  induction entries with
  | nil => cases member
  | cons first others inductionHypothesis =>
    obtain ⟨absent, onceLater⟩ := List.nodup_cons.mp once
    rcases List.mem_cons.mp member with rfl | inOthers
    · have noOther : others.filter (pair · = pair entry) = [] := by
        rw [List.filter_eq_nil_iff]
        intro other otherMember equal
        exact absent (of_decide_eq_true equal ▸ List.mem_map_of_mem otherMember)
      simp [noOther]
    · have differs : pair first ≠ pair entry := by
        intro equal
        exact absent (equal ▸ List.mem_map_of_mem inOthers)
      simpa [differs] using inductionHypothesis onceLater inOthers

namespace RuleSet

variable {ν : Type}

/-! ### The order of findings -/

variable [RegexEngine]

/-- The position of a rule in the order of loading. -/
def position (ruleSet : RuleSet) (name : String) : Nat :=
  (ruleSet.rules.map Rule.name).idxOf name

/-- A pair comes before another one if its place does, or the position of its rule at the same
place. -/
def Precedes (ruleSet : RuleSet) (first second : String × Nat) : Prop :=
  first.2 < second.2 ∨
    first.2 = second.2 ∧ ruleSet.position first.1 < ruleSet.position second.1

/-- No pair comes before itself. -/
theorem Precedes.ne {ruleSet : RuleSet} {first second : String × Nat}
    (precedes : ruleSet.Precedes first second) : first ≠ second := by
  rintro rfl
  rcases precedes with before | ⟨_, before⟩ <;> exact Nat.lt_irrefl _ before

/-- Rules of distinct names stand in the order of their positions. -/
theorem pairwise_position {ruleSet : RuleSet}
    (distinct : (ruleSet.rules.map Rule.name).Nodup) :
    ruleSet.rules.Pairwise fun first second =>
      ruleSet.position first.name < ruleSet.position second.name := by
  rw [List.pairwise_iff_getElem]
  intro earlier later earlierInside laterInside before
  have atPlace (place : Nat) (inside : place < ruleSet.rules.length) :
      ruleSet.position ruleSet.rules[place].name = place := by
    have found := distinct.idxOf_getElem place (by simpa using inside)
    rwa [List.getElem_map] at found
  rwa [atPlace earlier earlierInside, atPlace later laterInside]

/-- A finding is about the rule and the place that were asked. -/
theorem pair_of_finding? {ruleSet : RuleSet} {host : Host ν} {index : Nat} {node : ν}
    {rule : Rule} {finding : Finding}
    (found : ruleSet.finding? host index node rule = some finding) :
    finding.pair = (rule.name, index) := by
  unfold finding? at found
  split at found <;> cases found <;> rfl

/-- The findings stand in the order of their pairs. -/
theorem pairwise_findings {ruleSet : RuleSet}
    (distinct : (ruleSet.rules.map Rule.name).Nodup) (host : Host ν) (nodes : List ν) :
    (ruleSet.findings host nodes).Pairwise fun first second =>
      ruleSet.Precedes first.pair second.pair := by
  have places : nodes.zipIdx.Pairwise fun first second => first.2 < second.2 := by
    rw [← List.pairwise_map (f := Prod.snd), List.zipIdx_map_snd]
    exact List.pairwise_lt_range'
  refine List.pairwise_flatMap.mpr ⟨?_, ?_⟩
  · rintro ⟨node, index⟩ _
    rw [List.pairwise_filterMap]
    refine (pairwise_position distinct).imp ?_
    intro earlier later before first firstFound second secondFound
    rw [pair_of_finding? firstFound, pair_of_finding? secondFound]
    exact .inr ⟨rfl, before⟩
  · refine places.imp ?_
    rintro ⟨node, index⟩ ⟨laterNode, laterIndex⟩ before first firstFound second secondFound
    obtain ⟨rule, _, found⟩ := List.mem_filterMap.mp firstFound
    obtain ⟨laterRule, _, laterFound⟩ := List.mem_filterMap.mp secondFound
    rw [pair_of_finding? found, pair_of_finding? laterFound]
    exact .inl before

/-- No two findings are about the same pair. -/
theorem nodup_pair_findings {ruleSet : RuleSet}
    (distinct : (ruleSet.rules.map Rule.name).Nodup) (host : Host ν) (nodes : List ν) :
    ((ruleSet.findings host nodes).map Finding.pair).Nodup := by
  rw [List.Nodup, List.pairwise_map]
  exact (pairwise_findings distinct host nodes).imp Precedes.ne

/-- Asking a rule finds nothing exactly if the rule holds. -/
theorem finding?_eq_none_iff {ruleSet : RuleSet} {host : Host ν} {index : Nat} {node : ν}
    {rule : Rule} : ruleSet.finding? host index node rule = none ↔
      ruleSet.interpreter.evaluate host rule node = .ok true := by
  unfold finding?
  split <;> simp_all

/-- Every finding comes from one rule at one place. -/
theorem mem_findings_iff {ruleSet : RuleSet} {host : Host ν} {nodes : List ν}
    {finding : Finding} :
    finding ∈ ruleSet.findings host nodes ↔ ∃ index node, nodes[index]? = some node ∧
      ∃ rule ∈ ruleSet.rules, ruleSet.finding? host index node rule = some finding := by
  simp only [findings, List.mem_flatMap, List.mem_filterMap, Prod.exists,
    List.mk_mem_zipIdx_iff_getElem?]
  exact exists_comm

/-! ### Violations and faults -/

section Report

variable {ruleSet : RuleSet} {host : Host ν} {nodes : List ν}

variable (distinct : (ruleSet.rules.map Rule.name).Nodup)

include distinct

/-- No pair is reported twice, be it as two violations, as two faults or as one of each. -/
theorem nodup_pairs :
    ((ruleSet.audit host nodes).violations.map Violation.pair ++
      (ruleSet.audit host nodes).faults.map Fault.pair).Nodup := by
  rw [audit_eq_findings]
  exact (Finding.pairs_perm (ruleSet.findings host nodes)).nodup_iff.mpr
    (nodup_pair_findings distinct host nodes)

/-- Violations stand in the order of their pairs. -/
theorem pairwise_violations :
    (ruleSet.audit host nodes).violations.Pairwise fun first second =>
      ruleSet.Precedes first.pair second.pair := by
  rw [audit_eq_findings]
  refine List.pairwise_filterMap.mpr ((pairwise_findings distinct host nodes).imp ?_)
  intro earlier later precedes first firstFound second secondFound
  rw [Finding.violation?_eq_some_iff] at firstFound secondFound
  rwa [firstFound, secondFound] at precedes

/-- Faults stand in the order of their pairs. -/
theorem pairwise_faults :
    (ruleSet.audit host nodes).faults.Pairwise fun first second =>
      ruleSet.Precedes first.pair second.pair := by
  rw [audit_eq_findings]
  refine List.pairwise_filterMap.mpr ((pairwise_findings distinct host nodes).imp ?_)
  intro earlier later precedes first firstFound second secondFound
  rw [Finding.fault?_eq_some_iff] at firstFound secondFound
  rwa [firstFound, secondFound] at precedes

/-- The findings about a loaded rule and a place are what asking the rule there has found. -/
theorem filter_findings {index : Nat} {node : ν} (atPlace : nodes[index]? = some node)
    {rule : Rule} (member : rule ∈ ruleSet.rules) :
    (ruleSet.findings host nodes).filter (·.pair = (rule.name, index)) =
      (ruleSet.finding? host index node rule).toList := by
  cases asked : ruleSet.finding? host index node rule with
  | some finding =>
    have found : finding ∈ ruleSet.findings host nodes :=
      mem_findings_iff.mpr ⟨index, node, atPlace, rule, member, asked⟩
    rw [← pair_of_finding? asked]
    exact filter_pair_of_mem (nodup_pair_findings distinct host nodes) found
  | none =>
    rw [Option.toList_none, List.filter_eq_nil_iff]
    intro finding found about
    obtain ⟨place, other, otherPlace, otherRule, otherMember, otherAsked⟩ :=
      mem_findings_iff.mp found
    have same := (pair_of_finding? otherAsked).symm.trans (of_decide_eq_true about)
    obtain ⟨sameName, rfl⟩ := Prod.mk.inj same
    obtain rfl : otherRule = rule :=
      List.inj_on_of_nodup_map distinct otherMember member sameName
    obtain rfl : other = node := Option.some.inj (otherPlace.symm.trans atPlace)
    cases otherAsked.symm.trans asked

/-- What is reported of a loaded rule at a node is what evaluating it there comes to: nothing if
it is true, one violation if it is false, and one fault if it has no value. -/
theorem about_audit {index : Nat} {node : ν} (atPlace : nodes[index]? = some node)
    {rule : Rule} (member : rule ∈ ruleSet.rules) :
    (ruleSet.audit host nodes).about (rule.name, index) =
      match ruleSet.interpreter.evaluate host rule node with
      | .ok true => ([], [])
      | .ok false => ([⟨rule.name, rule.report, index, host.role node, host.type node⟩], [])
      | .error cause => ([], [⟨rule.name, index, host.role node, cause⟩]) := by
  have violated := Finding.filter_filterMap Finding.violation? Violation.pair
    (by rintro (_ | _) _ ⟨⟩; rfl) (ruleSet.findings host nodes) (rule.name, index)
  have faulty := Finding.filter_filterMap Finding.fault? Fault.pair
    (by rintro (_ | _) _ ⟨⟩; rfl) (ruleSet.findings host nodes) (rule.name, index)
  rw [filter_findings distinct atPlace member, finding?] at violated faulty
  simp only [AuditReport.about, audit_eq_findings, violated, faulty]
  cases ruleSet.interpreter.evaluate host rule node with
  | error cause => rfl
  | ok holds => cases holds <;> rfl

omit distinct in
/-- A report is clean if every rule answers that it holds at every node. -/
theorem isClean_audit_iff :
    (ruleSet.audit host nodes).isClean = true ↔
      ∀ node ∈ nodes, ∀ answer ∈ ruleSet.check host node, answer.2 = .ok true := by
  have noneFound : (ruleSet.audit host nodes).isClean = true ↔
      ruleSet.findings host nodes = [] := by
    have counted := (Finding.pairs_perm (ruleSet.findings host nodes)).length_eq
    simp only [List.length_append, List.length_map] at counted
    simp only [AuditReport.isClean, audit_eq_findings, Bool.and_eq_true, List.isEmpty_iff,
      ← List.length_eq_zero_iff, ← counted]
    omega
  rw [noneFound, List.eq_nil_iff_forall_not_mem]
  simp only [check, List.mem_map, forall_exists_index, and_imp, forall_apply_eq_imp_iff₂]
  constructor
  · intro nothing node member rule ruleMember
    obtain ⟨index, inside, atPlace⟩ := List.mem_iff_getElem.mp member
    have listed : nodes[index]? = some node := by rw [List.getElem?_eq_getElem inside, atPlace]
    have silent : ruleSet.finding? host index node rule = none := by
      rw [Option.eq_none_iff_forall_ne_some]
      intro finding found
      exact nothing finding (mem_findings_iff.mpr ⟨index, node, listed, rule, ruleMember, found⟩)
    exact finding?_eq_none_iff.mp silent
  · intro holds finding found
    obtain ⟨index, node, atPlace, rule, ruleMember, wrong⟩ := mem_findings_iff.mp found
    have right := holds node (List.mem_of_getElem? atPlace) rule ruleMember
    cases (finding?_eq_none_iff.mpr right).symm.trans wrong

end Report

end RuleSet

/-! ### Loaded rule sets -/

section AnyEngine

variable [RegexEngine]

/-- A loaded rule set has no two rules of one name, whether it was loaded leniently or
strictly. -/
theorem RuleSetPlan.nodup_names_of_loaded {plan : RuleSetPlan} {ruleSet : RuleSet}
    (loaded : ruleSet = plan.build ∨ plan.build? = .ok ruleSet) :
    (ruleSet.rules.map Rule.name).Nodup := by
  have built : ruleSet = plan.build := by
    rcases loaded with built | strict
    · exact built
    · exact ((plan.build?_eq.1 ruleSet).mp strict).2
  obtain ⟨verdicts, _, distinct, folded⟩ :=
    Loaded.judges_foldl plan.schema (plan.inputs.flatMap RuleInput.candidates)
  have rules : plan.build.rules = Loaded.rulesOf verdicts := congrArg Loaded.rules folded
  rwa [built, rules]

/-- A report accounts for every rule of a set at every node of a row. -/
structure AuditReport.AccountsFor {ν : Type} (report : AuditReport) (ruleSet : RuleSet)
    (host : Host ν) (nodes : List ν) : Prop where
  /-- Every node is counted. -/
  counted : report.nodesChecked = nodes.length
  /-- Nothing is reported of a rule at a node exactly if it is true there. -/
  holds : ∀ index node, nodes[index]? = some node → ∀ rule ∈ ruleSet.rules,
    (ruleSet.interpreter.evaluate host rule node = .ok true ↔
      report.about (rule.name, index) = ([], []))
  /-- One violation and no fault is reported exactly if it is false there. -/
  violated : ∀ index node, nodes[index]? = some node → ∀ rule ∈ ruleSet.rules,
    (ruleSet.interpreter.evaluate host rule node = .ok false ↔
      report.about (rule.name, index) =
        ([⟨rule.name, rule.report, index, host.role node, host.type node⟩], []))
  /-- One fault and no violation is reported, with the cause, exactly if it has no value there. -/
  faulty : ∀ index node, nodes[index]? = some node → ∀ rule ∈ ruleSet.rules, ∀ cause,
    (ruleSet.interpreter.evaluate host rule node = .error cause ↔
      report.about (rule.name, index) = ([], [⟨rule.name, index, host.role node, cause⟩]))
  /-- Every violation and every fault is about a node of the row and a rule of the set. -/
  nothing_else : ∀ pair ∈ report.violations.map Violation.pair ++ report.faults.map Fault.pair,
    pair.2 < nodes.length ∧ ∃ rule ∈ ruleSet.rules, rule.name = pair.1
  /-- Violations are ordered by the places of the nodes, then by the order of loading. -/
  violations_ordered : report.violations.Pairwise fun first second =>
    ruleSet.Precedes first.pair second.pair
  /-- Faults are ordered in the same way. -/
  faults_ordered : report.faults.Pairwise fun first second =>
    ruleSet.Precedes first.pair second.pair
  /-- No rule is reported twice at one node, be it in one of the lists or in both. -/
  once : (report.violations.map Violation.pair ++ report.faults.map Fault.pair).Nodup
  /-- The report is clean if and only if every check at every node answers that the rule holds. -/
  clean : report.isClean = true ↔
    ∀ node ∈ nodes, ∀ answer ∈ ruleSet.check host node, answer.2 = .ok true

namespace RuleSet

variable {ν : Type}

/-- Whatever is reported is about a node of the row and a rule of the set. -/
theorem pair_inside {ruleSet : RuleSet} {host : Host ν} {nodes : List ν} {pair : String × Nat}
    (member : pair ∈ (ruleSet.audit host nodes).violations.map Violation.pair ++
      (ruleSet.audit host nodes).faults.map Fault.pair) :
    pair.2 < nodes.length ∧ ∃ rule ∈ ruleSet.rules, rule.name = pair.1 := by
  rw [audit_eq_findings] at member
  have found := (Finding.pairs_perm (ruleSet.findings host nodes)).mem_iff.mp member
  obtain ⟨finding, listed, rfl⟩ := List.mem_map.mp found
  obtain ⟨index, node, atPlace, rule, ruleMember, asked⟩ := mem_findings_iff.mp listed
  rw [pair_of_finding? asked]
  exact ⟨(List.getElem?_eq_some_iff.mp atPlace).1, rule, ruleMember, rfl⟩

/-- A sweep loses and duplicates nothing. The report of a loaded rule set accounts for each of
its rules at each place of the row. What it says about a pair depends on that rule and that node
alone: it is the same if other rules are loaded, or the row has other nodes at other places,
whether those fail or not.

Proof: the findings about a pair are what the rule has found at the node, since names are
distinct and places are. Violations and faults are two parts of the findings. -/
theorem audit_accounts (plan : RuleSetPlan) (ruleSet : RuleSet)
    (loaded : ruleSet = plan.build ∨ plan.build? = .ok ruleSet) (host : Host ν)
    (nodes : List ν) :
    (ruleSet.audit host nodes).AccountsFor ruleSet host nodes ∧
      ∀ (otherPlan : RuleSetPlan) (other : RuleSet),
        (other = otherPlan.build ∨ otherPlan.build? = .ok other) →
        other.interpreter = ruleSet.interpreter →
        ∀ (others : List ν) (index : Nat) (node : ν), nodes[index]? = some node →
          others[index]? = some node → ∀ rule ∈ ruleSet.rules, rule ∈ other.rules →
          (other.audit host others).about (rule.name, index) =
            (ruleSet.audit host nodes).about (rule.name, index) := by
  have distinct := RuleSetPlan.nodup_names_of_loaded loaded
  have counted : (ruleSet.audit host nodes).nodesChecked = nodes.length := by
    rw [audit_eq_findings]
  refine ⟨⟨counted, ?_, ?_, ?_, ?_, pairwise_violations distinct, pairwise_faults distinct,
    nodup_pairs distinct, isClean_audit_iff⟩, ?_⟩
  · intro index node atPlace rule member
    rw [about_audit distinct atPlace member]
    split <;> simp_all
  · intro index node atPlace rule member
    rw [about_audit distinct atPlace member]
    split <;> simp_all
  · intro index node atPlace rule member cause
    rw [about_audit distinct atPlace member]
    split <;> simp_all
  · intro pair member
    exact pair_inside member
  · intro otherPlan other otherLoaded sameInterpreter others index node atPlace otherPlace rule
      member otherMember
    rw [about_audit distinct atPlace member, about_audit
      (RuleSetPlan.nodup_names_of_loaded otherLoaded) otherPlace otherMember, sameInterpreter]

/-- A plan of three rules: the first cannot be evaluated, the second is false everywhere, and the
third repeats the name of the first and is not loaded. -/
def faultyPlan : RuleSetPlan where
  inputs := [.rule ⟨"faulty", [.any], .empty, none, .unary .negate (.state .hidden), "no value"⟩,
    .rule ⟨"tap", [.any], .empty, none, .state .hasTap, "no tap"⟩,
    .rule ⟨"faulty", [.any], .empty, none, .state .hidden, "repeated"⟩]

end RuleSet

end AnyEngine

/-- On a widget and its child the faults of the first rule leave the violations of the second
one as they are. -/
theorem RuleSet.audit_accounts_faultyPlan :
    let host := (WidgetTree.ofNested (.node default [.node default []])).host
    let report := faultyPlan.build.audit host [0, 1]
    report.AccountsFor faultyPlan.build host [0, 1] ∧
      report.violations.map Violation.pair = [("tap", 0), ("tap", 1)] ∧
      report.faults.map Fault.pair = [("faulty", 0), ("faulty", 1)] :=
  ⟨(audit_accounts faultyPlan _ (.inl rfl) _ [0, 1]).1, by decide, by decide⟩

end WidgetAudit
