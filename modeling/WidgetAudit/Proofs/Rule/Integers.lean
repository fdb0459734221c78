import WidgetAudit.Pattern.GapEngine
import WidgetAudit.Proofs.Evaluation.Rereading
import WidgetAudit.Proofs.Rule.Reading
import WidgetAudit.Widget.Tree

/-!
# Whole numbers in rules

A source has no literals with a sign. A negative number is written as the sign of negation in front
of the digits of its opposite, and the two give the number when they are evaluated. This reaches
every whole number of 64 bits but the least: its digits alone are beyond 64 bits, so they are read
as a floating-point number already, and remain one when the sign is applied.
-/

namespace WidgetAudit

/-- The digits of a whole number, behind a minus sign if it is negative. -/
def decimalText (number : Int64) : List Char :=
  (if number.toInt < 0 then ['-'] else []) ++ Nat.toDigits 10 number.toInt.natAbs

/-- A rule on one line that asserts what a text says. -/
def assertionText (text : List Char) : List Char :=
  "rule \"r\" on any \x7b ensure: ".toList ++ (text ++ " report: \"x\" \x7d".toList)

/-- The printer writes a literal in this way. -/
theorem Value.written_eq_decimalText {number : Int64} (noLeast : number ≠ Int64.minValue) :
    (Value.int number).written = decimalText number := by
  by_cases negative : number.toInt < 0
  · have opposed := toInt_neg_of_ne_least noLeast
    rw [Value.written_negative negative opposed, Grammar.written_int (by omega), decimalText,
      if_pos negative, opposed, List.singleton_append]
    congr 2
    omega
  · rw [Grammar.written_int (by omega), decimalText, if_neg negative, List.nil_append]
    congr 1
    omega

/-- So it can be written down. -/
theorem Value.isWritable_int {number : Int64} (noLeast : number ≠ Int64.minValue) :
    (Value.int number).isWritable = true := by
  by_cases negative : number.toInt < 0
  · have behind : (Value.int number).behindSign? = some (.int (-number)) := by
      rw [behindSign?, if_pos negative, ← toInt_neg_of_ne_least noLeast, int64?_toInt,
        Option.map_some]
    rw [isWritable, behind, Option.isSome_some, Bool.or_true]
  · have normal : (Value.int number).isNormal = true := decide_eq_true (not_lt.mp negative)
    rw [isWritable, normal, Bool.true_or]

section AnyEngine

variable [RegexEngine]

/-- An expression that can be written down is asserted by the rule around its text, in the form in
which it is read back. -/
theorem Expr.parse_assertionText {expr : Expr} (writable : expr.isWritable = true)
    (fits : expr.nesting ≤ 128) :
    Rule.parse (String.ofList (assertionText expr.written)) = .ok {
      name := "r", selectors := [.any], details := .empty, guard := none,
      ensure := expr.reread, report := "x" } := by
  have text : assertionText expr.written = (Rendering.ofWritten expr).ruleText :=
    congrArg assertionText (Rendering.text_ofWritten expr).symm
  have meaning := Rendering.expr_ofWritten expr
  have normal : (Rendering.ofWritten expr).expr.isNormal = true := by
    rw [meaning]
    exact isNormal_reread writable
  have nesting : (Rendering.ofWritten expr).nesting ≤ Source.nestingLimit := by
    rwa [Rendering.nesting_ofWritten]
  have rows : (Rendering.ofWritten expr).longestRow ≤ Grammar.signLimit :=
    (Rendering.longestRow_ofWritten expr).trans (by decide)
  rw [text, ← meaning]
  exact Rule.parse_of_read ((Rendering.opens_ruleText normal).overflow?_eq_none nesting)
    (Rendering.read_ruleText (Rendering.isGrouped_ofWritten expr) rows normal nesting)

/-- A whole number of 64 bits can be written in a rule, as its digits behind a minus sign if it is
negative: the rule that asserts this text is read, and its assertion is worth the number at every
node of every host. Only the least number is not reached. Its text is read as well, but the digits
behind the sign are beyond 64 bits, so the assertion is worth the floating-point number `-2 ^ 63`.

Proof: the text is what the printer writes for the number, and what is read back from there has the
same value. -/
theorem Rule.parse_decimalText (number : Int64) :
    ∃ ensure : Expr, Rule.parse (String.ofList (assertionText (decimalText number))) = .ok {
        name := "r", selectors := [.any], details := .empty, guard := none, ensure,
        report := "x" } ∧
      ∀ {ν : Type} (host : Host ν) (limit : Option Nat) (node : ν),
        ensure.evaluate host limit node = .ok (
          if number = Int64.minValue then .float (.finite true (2 ^ 52) 11 (by decide))
          else .int number) := by
  by_cases least : number = Int64.minValue
  · subst least
    refine ⟨.unary .negate (.literal (.float (.finite false (2 ^ 52) 11 (by decide)))),
      by with_unfolding_all rfl, fun host limit node => ?_⟩
    rw [if_pos rfl]
    rfl
  · have writable : (Expr.literal (.int number)).isWritable = true := Value.isWritable_int least
    have read := Expr.parse_assertionText writable (Nat.zero_le 128)
    rw [Expr.written, Value.written_eq_decimalText least] at read
    refine ⟨_, read, fun host limit node => ?_⟩
    rw [if_neg least]
    exact Expr.evaluateAt_reread host limit (.literal (.int number)) 0 node

end AnyEngine

/-- So it is not true of the least whole number that its text is worth it. -/
theorem Rule.parse_decimalText_least :
    let host := (WidgetTree.ofNested (.node default [])).host
    decimalText Int64.minValue = "-9223372036854775808".toList ∧
      ∃ rule, Rule.parse (String.ofList (assertionText (decimalText Int64.minValue))) = .ok rule ∧
        rule.ensure.evaluate host none 0 = .ok (.float (.finite true (2 ^ 52) 11 (by decide))) ∧
        rule.ensure.evaluate host none 0 ≠ .ok (.int Int64.minValue) := by
  intro host
  refine ⟨by decide +kernel, ⟨"r", [.any], .empty, none,
    .unary .negate (.literal (.float (.finite false (2 ^ 52) 11 (by decide)))), "x"⟩,
    by decide +kernel, rfl, ?_⟩
  exact fun same => nomatch same

end WidgetAudit
