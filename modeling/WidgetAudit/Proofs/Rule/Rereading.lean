import WidgetAudit.Pattern.GapEngine
import WidgetAudit.Proofs.Evaluation.Rereading
import WidgetAudit.Proofs.Rule.RoundTrip

/-!
# Rules that mean the same when they are read back

A rule that no source gives may be printed all the same. If only the signs of its numbers and the
patterns behind `matches` keep it from being read back as it is, then it is read back as a rule that
means the same: its guard and its assertion have the same values and the same faults everywhere.
-/

namespace WidgetAudit

section AnyEngine

variable [RegexEngine]

/-- An expression and what it is read back as have the same outcome. -/
theorem Expr.evaluate_reread {ν : Type} (host : Host ν) (limit : Option Nat) (expr : Expr)
    (node : ν) : expr.reread.evaluate host limit node = expr.evaluate host limit node :=
  expr.evaluateAt_reread host limit 0 node

/-- A rule and what it is read back as come to the same verdict, or the same fault. -/
theorem Interpreter.evaluate_reread {ν : Type} (interpreter : Interpreter) (host : Host ν)
    (rule : Rule) (node : ν) :
    interpreter.evaluate host rule.reread node = interpreter.evaluate host rule node := by
  have sameGuard :
      interpreter.admits host rule.reread node = interpreter.admits host rule node := by
    unfold admits Rule.reread
    cases rule.guard with
    | none => rfl
    | some guard => simp only [Option.map_some, guard.evaluate_reread]
  have sameEnsure : rule.reread.ensure.evaluate host interpreter.depthLimit node =
      rule.ensure.evaluate host interpreter.depthLimit node :=
    rule.ensure.evaluate_reread host interpreter.depthLimit node
  have sameChoice :
      interpreter.applies host rule.reread node = interpreter.applies host rule node := rfl
  unfold evaluate
  rw [sameChoice, sameGuard, sameEnsure]

namespace Rule

/-- Printing keeps the meaning of a rule also where it does not keep the rule. A rule may have
negative numbers, of which only the least whole number is excluded, and it may have patterns as
operands of `matches`. If every other part of it can be written and its text opens at most 128
parentheses at once, then the text is read, and the guard, the assertion and the whole rule that
are read have the same values and the same faults as those that were printed. -/
theorem parse_text_rereads {rule : Rule} (writable : rule.isWritable = true)
    (fits : rule.nesting ≤ 128) :
    ∃ found, Rule.parse rule.text = .ok found ∧
      found = { rule with guard := found.guard, ensure := found.ensure } ∧
      ∀ {ν : Type} (host : Host ν) (interpreter : Interpreter) (node : ν),
        found.ensure.evaluate host interpreter.depthLimit node =
            rule.ensure.evaluate host interpreter.depthLimit node ∧
          (found.guard.map fun guard => guard.evaluate host interpreter.depthLimit node) =
            (rule.guard.map fun guard => guard.evaluate host interpreter.depthLimit node) ∧
          interpreter.evaluate host found node = interpreter.evaluate host rule node := by
  have read := parse_of_read ((opens_of_isWritable writable).overflow?_eq_none fits)
    (read_of_isWritable writable fits)
  refine ⟨rule.reread, read, rfl, ?_⟩
  intro ν host interpreter node
  refine ⟨rule.ensure.evaluate_reread host _ node, ?_, interpreter.evaluate_reread host rule node⟩
  simp only [reread, Option.map_map]
  congr 1
  funext guard
  exact guard.evaluate_reread host interpreter.depthLimit node

/-- A rule with a sign in front of a negative number, with a negative zero, and with a pattern that
is an operand. -/
def signedLiterals : Rule where
  name := "r"
  selectors := [.any]
  details := .empty
  guard := some (.binary .matching (.name "label") (.literal (.string "^a|b$")))
  ensure := .binary .less (.unary .negate (.literal (.int (-5))))
    (.binary .divide (.literal (.float (.zero true))) (.name "size"))
  report := "x"

end Rule

end AnyEngine

/-- It is not read back as it is, but as a rule that means the same. -/
theorem Rule.parse_text_signedLiterals :
    signedLiterals.isPrintable = false ∧ signedLiterals.text =
      "rule \"r\" on any \x7b\n    when: (label matches \"^a|b$\")\n" ++
        "    ensure: ((--5) < (-0.0 / size))\n    report: \"x\"\n\x7d" ∧
      ∃ found, Rule.parse signedLiterals.text = .ok found ∧
        found = { signedLiterals with guard := found.guard, ensure := found.ensure } ∧
        ∀ {ν : Type} (host : Host ν) (interpreter : Interpreter) (node : ν),
          found.ensure.evaluate host interpreter.depthLimit node =
              signedLiterals.ensure.evaluate host interpreter.depthLimit node ∧
            (found.guard.map fun guard => guard.evaluate host interpreter.depthLimit node) =
              (signedLiterals.guard.map fun guard =>
                guard.evaluate host interpreter.depthLimit node) ∧
            interpreter.evaluate host found node =
              interpreter.evaluate host signedLiterals node :=
  ⟨by decide +kernel, by decide +kernel, parse_text_rereads (by decide +kernel) (by decide +kernel)⟩

end WidgetAudit
