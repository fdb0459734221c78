import WidgetAudit.Pattern.GapEngine
import WidgetAudit.Proofs.Grammar.Clauses
import WidgetAudit.Proofs.Source.Nesting
import WidgetAudit.Proofs.Source.Outcome

/-!
# Rules around a rendering

The table of precedence is a statement about whole sources: an expression is only ever read as
part of a rule, after the scan for parentheses has let the source pass. Here a rendering is put
into a rule on one line, and the rule that is read has the expression of the rendering as its
assertion.
-/

namespace WidgetAudit

/-- A text that opens no more parentheses than the limit passes the scan. -/
theorem Source.Opens.overflow?_eq_none {count limit : Nat} {text : List Char}
    (opens : Opens count text) (within : count ≤ limit) : overflow? limit 0 text = none := by
  have passed : overflow? limit 0 (text ++ []) = overflow? limit 0 [] :=
    opens.passed (by omega) []
  rwa [List.append_nil, overflow?] at passed

section AnyEngine

variable [RegexEngine]

/-- A source is read as a rule if the scan lets it pass and the grammar reads all of it. -/
theorem Rule.parse_of_read {text : List Char} {rule : Rule}
    (passes : Source.overflow? Source.nestingLimit 0 text = none)
    (read : (Grammar.rule Source.nestingLimit).read text = .ok (rule, [])) :
    Rule.parse (String.ofList text) = .ok rule := by
  have whole : (Grammar.oneRule Source.nestingLimit).read text = .ok (rule, []) := by
    rw [Grammar.oneRule, Grammar.Reader.read_bind read,
      Grammar.Reader.read_bind (Grammar.read_layout_solid Grammar.isSolid_nil),
      Grammar.Reader.read_map Grammar.Reader.read_finish]
  rw [← String.toList_ofList (l := text)] at passes whole
  exact Source.read_accepts_iff.mpr ⟨passes, [], whole⟩

namespace Rendering

/-- A rule on one line that asserts what is rendered. -/
def ruleText (rendering : Rendering) : List Char :=
  "rule \"r\" on any \x7b ensure: ".toList ++ (rendering.text ++ " report: \"x\" \x7d".toList)

/-- The rule around a rendering opens the parentheses of the rendering only. -/
theorem opens_ruleText {rendering : Rendering} (normal : rendering.expr.isNormal = true) :
    Source.Opens rendering.nesting rendering.ruleText := by
  have name : Source.Opens 0 (Quoted.written ['r']) := Source.opens_quoted ['r']
  have report : Source.Opens 0 (Quoted.written ['x']) := Source.opens_quoted ['x']
  have plain : ∀ word : List Char, word.all Source.isPlain = true → Source.Opens 0 word :=
    fun _ => Source.opens_plain
  have head := (name.append (plain " on any \x7b ensure: ".toList (by decide))).behind
    (plain "rule ".toList (by decide))
  have tail := (report.append (plain " \x7d".toList (by decide))).behind
    (plain " report: ".toList (by decide))
  exact ((Source.opens_rendering normal).before tail).behind head

/-- The grammar reads the rule around a grouped rendering. -/
theorem read_ruleText {rendering : Rendering} (grouped : rendering.isGrouped = true)
    (rows : rendering.longestRow ≤ Grammar.signLimit)
    (normal : rendering.expr.isNormal = true) {depth : Nat} (fits : rendering.nesting ≤ depth) :
    (Grammar.rule depth).read rendering.ruleText = .ok ({
      name := "r", selectors := [.any], details := .empty, guard := none,
      ensure := rendering.expr, report := "x" }, []) := by
  let following : List Char := [' '] ++ ("report".toList ++ ':' :: ' ' ::
    (Quoted.written "x".toList ++ ([' '] ++ '}' :: [])))
  let body : List Char := [' '] ++ ("ensure".toList ++ ':' :: ' ' :: (rendering.text ++ following))
  have form : rendering.ruleText = "rule".toList ++ ' ' :: (Quoted.written "r".toList ++
      ' ' :: ("on".toList ++ ' ' :: (" || ".toList.intercalate
        ([Selector.any].map Selector.written) ++ ' ' :: '{' :: body))) := rfl
  have follows : Grammar.Follows 0 following :=
    Grammar.follows_clause 0 (by simp) Grammar.isGap_space (.inr rfl) _
  have selectorsRead := Grammar.read_selectors [.any] (by simp) (by decide) body
  have noDetails : Grammar.details.Declines body :=
    Grammar.declines_details Grammar.isGap_space "ensure" (by decide) (by decide) _
  have noGuard : (Grammar.clause depth "when").Declines body :=
    Grammar.declines_clause Grammar.isGap_space "ensure" (by decide) (by decide) _
  have ensureRead := Grammar.read_clause Grammar.isGap_space "ensure" (by decide)
    grouped rows normal fits follows
  rw [form]
  exact Grammar.read_rule selectorsRead noDetails.read_optional noGuard.read_optional ensureRead
    Grammar.isGap_space Grammar.isGap_space

/-- The grammar keeps to the table of precedence, and joins binary operators from the left.
However an expression is rendered, with parentheses at least where the table wants them, at
most 32 signs in a row and at most 128 parentheses open at once, the rule around the rendering
is read, and it asserts the expression. -/
theorem parse_ruleText {rendering : Rendering} {expr : Expr} (stands : rendering.expr = expr)
    (normal : expr.isNormal = true) (grouped : rendering.isGrouped = true)
    (rows : rendering.longestRow ≤ 32) (fits : rendering.nesting ≤ 128) :
    Rule.parse (String.ofList rendering.ruleText) = .ok {
      name := "r", selectors := [.any], details := .empty, guard := none,
      ensure := expr, report := "x" } := by
  subst stands
  exact Rule.parse_of_read ((opens_ruleText normal).overflow?_eq_none fits)
    (read_ruleText grouped rows normal fits)

/-- A rendering with operators of every level and no parentheses but the needed ones. -/
def mixedOperators : Rendering :=
  .joined .or
    (.signed .not false (.leaf (.name "matches")))
    (.joined .and
      (.joined .notEqual
        (.joined .equal (.leaf (.name "a")) (.leaf (.name "b")))
        (.joined .lessOrEqual
          (.joined .subtract
            (.joined .subtract (.leaf (.literal (.int 9))) (.leaf (.count .children)))
            (.joined .divide (.signed .negate true (.leaf (.literal (.int 2))))
              (.enclosed (.joined .add (.leaf (.name "c")) (.leaf (.property "d" (.cast .int)))))))
          (.leaf (.literal (.string "(")))))
      (.quantified .siblings .none (.enclosed (.leaf (.state .hidden)))))

end Rendering

end AnyEngine

/-- Its levels and its operators that are joined from the left are told apart. -/
theorem Rendering.parse_ruleText_mixedOperators :
    mixedOperators.text = ("!matches || a == b != 9 - children.length - - 2 / " ++
      "(c + prop(\"d\") as int) <= \"(\" && siblings.none((hidden))").toList ∧
    Rule.parse (String.ofList mixedOperators.ruleText) = .ok {
      name := "r", selectors := [.any], details := .empty, guard := none, report := "x"
      ensure := .binary .or
        (.unary .not (.name "matches"))
        (.binary .and
          (.binary .notEqual
            (.binary .equal (.name "a") (.name "b"))
            (.binary .lessOrEqual
              (.binary .subtract
                (.binary .subtract (.literal (.int 9)) (.count .children))
                (.binary .divide (.unary .negate (.literal (.int 2)))
                  (.binary .add (.name "c") (.property "d" (.cast .int)))))
              (.literal (.string "("))))
          (.quantified .siblings .none (.state .hidden))) } :=
  ⟨by decide, parse_ruleText rfl (by decide) (by decide) (by decide) (by decide)⟩

end WidgetAudit
