import WidgetAudit.Pattern.GapEngine
import WidgetAudit.RuleSet

/-!
# Audits

An audit evaluates every rule of a set at every node of a row. A rule that is false at a node
is a violation, and one that cannot be evaluated there is a fault; neither stops the audit.
Violations and faults are reported in the order of the nodes and, at one node, in the order
in which the rules were loaded.
-/

namespace WidgetAudit

/-- A rule that is false at a node. The index is the place of the node in the row. -/
structure Violation where
  rule : String
  report : String
  index : Nat
  role : String
  type : String
deriving DecidableEq

/-- A rule that could not be evaluated at a node. -/
structure Fault where
  rule : String
  index : Nat
  role : String
  cause : EvaluationFault
deriving DecidableEq

/-- The text of a violation. -/
def Violation.text (violation : Violation) : String :=
  "[" ++ violation.rule ++ "] node " ++ toString violation.index ++ " (" ++ violation.role ++
    ": " ++ violation.type ++ "): " ++ violation.report

/-- The text of a fault. -/
def Fault.text (fault : Fault) : String :=
  "[" ++ fault.rule ++ "] node " ++ toString fault.index ++ " (" ++ fault.role ++ "): " ++
    fault.cause.message

/-- What an audit found. -/
structure AuditReport where
  violations : List Violation
  faults : List Fault
  nodesChecked : Nat
deriving DecidableEq

namespace AuditReport

/-- The report before any node has been checked. -/
def empty : AuditReport := ⟨[], [], 0⟩

/-- Whether nothing was found. -/
def isClean (report : AuditReport) : Bool := report.violations.isEmpty && report.faults.isEmpty

/-- The violations of one rule. -/
def violationsOf (report : AuditReport) (rule : String) : List Violation :=
  report.violations.filter fun violation => violation.rule == rule

/-- The report in words: a line of totals, for which the time that the audit took is given,
and a line for each violation and each fault. -/
def text (report : AuditReport) (duration : String) : String :=
  let totals := toString report.nodesChecked ++ " nodes checked, " ++
    toString report.violations.length ++ " violations, " ++
    toString report.faults.length ++ " faults, duration: " ++ duration
  let violations := report.violations.map fun violation => "violation " ++ violation.text
  let faults := report.faults.map fun fault => "fault " ++ fault.text
  "\n  ".intercalate (totals :: violations ++ faults)

end AuditReport

namespace RuleSet

variable {ν : Type}

variable [RegexEngine]

/-- What each rule comes to at a node, in the order of loading. -/
def check (ruleSet : RuleSet) (host : Host ν) (node : ν) : List (String × Outcome Bool) :=
  ruleSet.rules.map fun rule => (rule.name, ruleSet.interpreter.evaluate host rule node)

/-- Ask a rule about a node and add what is wrong, if anything is, to the report. -/
def ask (ruleSet : RuleSet) (host : Host ν) (node : ν) (index : Nat) (report : AuditReport)
    (rule : Rule) : AuditReport :=
  match ruleSet.interpreter.evaluate host rule node with
  | .ok true => report
  | .ok false =>
    let violation : Violation :=
      ⟨rule.name, rule.report, index, host.role node, host.type node⟩
    { report with violations := report.violations ++ [violation] }
  | .error cause =>
    let fault : Fault := ⟨rule.name, index, host.role node, cause⟩
    { report with faults := report.faults ++ [fault] }

/-- Count a node and ask every rule about it, in the order of loading. -/
def checkNode (ruleSet : RuleSet) (host : Host ν) (report : AuditReport) (place : ν × Nat) :
    AuditReport :=
  ruleSet.rules.foldl (ruleSet.ask host place.1 place.2)
    { report with nodesChecked := report.nodesChecked + 1 }

/-- The audit of nodes, in their order. -/
def audit (ruleSet : RuleSet) (host : Host ν) (nodes : List ν) : AuditReport :=
  nodes.zipIdx.foldl (ruleSet.checkNode host) .empty

/-- The audit of a node and everything inside it, each node before the nodes inside it. -/
def auditTree (ruleSet : RuleSet) (host : Host ν) (root : ν) : AuditReport :=
  ruleSet.audit host (host.preOrder root)

end RuleSet

end WidgetAudit
