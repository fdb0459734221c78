import WidgetAudit.Audit

/-!
# What the loop of an audit collects

An audit goes over the nodes, and over the rules at each of them, and adds to one report. Here the
report is told from the findings alone: a rule that is asked about a node finds one thing or
nothing, and the report lists what has been found, node by node and rule by rule, with the
violations and the faults in lists of their own and every node counted once.
-/

namespace WidgetAudit

/-- What an audit can find: a violation or a fault. -/
inductive Finding
  | violation (violation : Violation)
  | fault (fault : Fault)
deriving DecidableEq

/-- The violation that a finding is. -/
def Finding.violation? : Finding → Option Violation
  | .violation found => some found
  | .fault _ => none

/-- The fault that a finding is. -/
def Finding.fault? : Finding → Option Fault
  | .violation _ => none
  | .fault found => some found

/-- A report with more findings at its end. -/
def AuditReport.collect (report : AuditReport) (findings : List Finding) : AuditReport :=
  { report with
    violations := report.violations ++ findings.filterMap Finding.violation?
    faults := report.faults ++ findings.filterMap Finding.fault? }

/-- Findings are collected one list after the other. -/
theorem AuditReport.collect_append (report : AuditReport) (findings others : List Finding) :
    report.collect (findings ++ others) = (report.collect findings).collect others := by
  simp only [collect, List.filterMap_append, List.append_assoc]

/-- Nothing found leaves the report as it is. -/
theorem AuditReport.collect_nil (report : AuditReport) : report.collect [] = report := by
  simp only [collect, List.filterMap_nil, List.append_nil]

namespace RuleSet

variable {ν : Type} [RegexEngine]

/-- What is wrong with a node in the eyes of a rule, if anything is. -/
def finding? (ruleSet : RuleSet) (host : Host ν) (index : Nat) (node : ν) (rule : Rule) :
    Option Finding :=
  match ruleSet.interpreter.evaluate host rule node with
  | .ok true => none
  | .ok false =>
    some (.violation ⟨rule.name, rule.report, index, host.role node, host.type node⟩)
  | .error cause => some (.fault ⟨rule.name, index, host.role node, cause⟩)

/-- Everything that is wrong with nodes: node by node and, at each one, rule by rule. -/
def findings (ruleSet : RuleSet) (host : Host ν) (nodes : List ν) : List Finding :=
  nodes.zipIdx.flatMap fun (node, index) =>
    ruleSet.rules.filterMap (ruleSet.finding? host index node)

/-- Asking a rule adds what it finds. -/
theorem ask_eq (ruleSet : RuleSet) (host : Host ν) (node : ν) (index : Nat)
    (report : AuditReport) (rule : Rule) :
    ruleSet.ask host node index report rule =
      report.collect (ruleSet.finding? host index node rule).toList := by
  cases answer : ruleSet.interpreter.evaluate host rule node with
  | error cause =>
    simp [ask, finding?, answer, AuditReport.collect, Finding.violation?, Finding.fault?]
  | ok holds =>
    cases holds with
    | true => simp [ask, finding?, answer, AuditReport.collect_nil]
    | false => simp [ask, finding?, answer, AuditReport.collect, Finding.violation?, Finding.fault?]

/-- Asking rules one after the other adds what they find, in their order. -/
theorem foldl_ask (ruleSet : RuleSet) (host : Host ν) (node : ν) (index : Nat)
    (rules : List Rule) (report : AuditReport) :
    rules.foldl (ruleSet.ask host node index) report =
      report.collect (rules.filterMap (ruleSet.finding? host index node)) := by
  induction rules generalizing report with
  | nil => exact report.collect_nil.symm
  | cons rule others inductionHypothesis =>
    have first : (rule :: others).filterMap (ruleSet.finding? host index node) =
        (ruleSet.finding? host index node rule).toList ++
          others.filterMap (ruleSet.finding? host index node) := by
      cases found : ruleSet.finding? host index node rule <;> simp [found]
    rw [List.foldl_cons, inductionHypothesis, ask_eq, first, AuditReport.collect_append]

/-- The loop from any report and any place on counts the nodes and adds what is found.

Induct on the nodes: the first one is counted and its findings are collected before those of the
others, which stand one place further on. -/
theorem foldl_checkNode (ruleSet : RuleSet) (host : Host ν) (nodes : List ν) (start : Nat)
    (report : AuditReport) :
    (nodes.zipIdx start).foldl (ruleSet.checkNode host) report =
      ({ report with nodesChecked := report.nodesChecked + nodes.length }).collect
        ((nodes.zipIdx start).flatMap fun (node, index) =>
          ruleSet.rules.filterMap (ruleSet.finding? host index node)) := by
  induction nodes generalizing start report with
  | nil => exact (AuditReport.collect_nil _).symm
  | cons node others inductionHypothesis =>
    rw [List.zipIdx_cons, List.foldl_cons, inductionHypothesis, checkNode, foldl_ask,
      List.flatMap_cons, AuditReport.collect_append]
    simp only [AuditReport.collect, List.length_cons]
    congr 1
    omega

/-- The report of an audit lists the violations and the faults that are found, each in the order of
the findings, and counts every node. -/
theorem audit_eq_findings (ruleSet : RuleSet) (host : Host ν) (nodes : List ν) :
    ruleSet.audit host nodes =
      { violations := (ruleSet.findings host nodes).filterMap Finding.violation?
        faults := (ruleSet.findings host nodes).filterMap Finding.fault?
        nodesChecked := nodes.length } := by
  rw [audit, foldl_checkNode, AuditReport.collect, AuditReport.empty]
  simp only [List.nil_append, Nat.zero_add, findings]

end RuleSet

end WidgetAudit
