import WidgetAudit.Pattern.GapEngine
import WidgetAudit.Proofs.Grammar.WholeTexts
import WidgetAudit.Proofs.Source.Outcome

/-!
# Rules one text after the other

Texts of rules may be written below one another. The upper text has to be one that is read;
the lower one may be any text, and what is made of it, rules or an error, is made of it below
the other text as well, only further down.

The reading comes from the rules of the upper text to the layout behind them, and from there
it goes on as it begins in the lower text, because every rule begins with layout. The scan is
compared on the same way: it cannot stop in the upper text, and behind the rules of that text
no parenthesis is open.
-/

namespace WidgetAudit

namespace Grammar

open Reader
open Source (Passage overflow?)

/-! ### Reading -/

variable [RegexEngine]

/-- Where the layout in front makes no difference, the rules behind it are the same. -/
theorem read_allRules_congr {input other : List Char} (same : layout.read input = layout.read other)
    (depth : Nat) : (allRules depth).read input = (allRules depth).read other := by
  have ruleSame : (rule depth).read input = (rule depth).read other := read_bind_congr same _
  rw [allRules_eq]
  cases reply : (rule depth).read other with
  | ok found =>
    refine read_bind_congr ?_ _
    rw [read_many_step (consumes_rule depth) (ruleSame.trans reply),
      read_many_step (consumes_rule depth) reply]
  | error refusal =>
    by_cases tentative : refusal.severity = .tentative
    · have declines : (rule depth).Declines input := ⟨refusal, ruleSame.trans reply, tentative⟩
      have otherDeclines : (rule depth).Declines other := ⟨refusal, reply, tentative⟩
      rw [whole, read_bind (declines.read_many (consumes_rule depth)),
        read_bind (otherDeclines.read_many (consumes_rule depth))]
      exact read_bind_congr same _
    · refine read_bind_congr ?_ _
      rw [refuses_many (consumes_rule depth) (ruleSame.trans reply) tentative,
        refuses_many (consumes_rule depth) reply tentative]

/-- Rules in front of a place are added to what is read from there on. -/
theorem read_allRules_row {depth : Nat} {input place : List Char} {rules : List Rule}
    (row : Row (rule depth) input rules place) :
    (allRules depth).read input =
      match (allRules depth).read place with
      | .ok (others, last) => .ok (rules ++ others, last)
      | .error refusal => .error refusal := by
  have rowRead := row.read_many_eq (consumes_rule depth)
  rw [allRules_eq]
  cases reply : (many (rule depth) (consumes_rule depth)).read place with
  | error refusal =>
    rw [reply] at rowRead
    rw [whole, refuses_bind rowRead, refuses_bind reply]
  | ok found =>
    rw [reply] at rowRead
    obtain ⟨last, layoutRead⟩ := layout_total found.2
    rw [whole, read_bind rowRead, read_bind reply, read_bind layoutRead, read_bind layoutRead]
    cases last <;> rfl

/-- What has been read as rules stands in front of layout only. -/
theorem allRules_accepts {depth : Nat} {input rest : List Char} {rules : List Rule}
    (accepted : (allRules depth).read input = .ok (rules, rest)) :
    ∃ place, Row (rule depth) input rules place ∧ layout.read place = .ok ((), []) := by
  obtain ⟨place, begun, layoutRead⟩ := whole_accepts accepted
  exact ⟨place, (many_accepts begun).1, layoutRead⟩

/-- Below a text of rules the grammar reads what it reads of the lower text alone. -/
theorem read_allRules_below {depth : Nat} {upper rest : List Char} {rules : List Rule}
    (accepted : (allRules depth).read upper = .ok (rules, rest)) (lower : List Char) :
    (allRules depth).read (upper ++ '\n' :: lower) =
      match (allRules depth).read lower with
      | .ok (others, last) => .ok (rules ++ others, last)
      | .error refusal => .error refusal := by
  obtain ⟨place, row, layoutRead⟩ := allRules_accepts accepted
  have closing : (rule depth).Closing 0 0 fun _ => 0 := closing_rule (Nat.zero_le _)
  rw [read_allRules_row (closing.row row ('\n' :: lower)),
    read_allRules_congr (read_layout_line layoutRead lower)]

/-! ### Scanning -/

/-- Below a text of rules that passes the scan, the scan stops where it stops in the lower text
alone. -/
theorem overflow?_below {limit depth : Nat} {upper rest : List Char} {rules : List Rule}
    (accepted : (allRules depth).read upper = .ok (rules, rest))
    (passes : overflow? limit 0 upper = none) (lower : List Char) :
    overflow? limit 0 (upper ++ '\n' :: lower) = overflow? limit 0 lower := by
  obtain ⟨place, row, layoutRead⟩ := allRules_accepts accepted
  have closing : (rule depth).Closing 0 0 fun _ => 0 := closing_rule (Nat.zero_le _)
  obtain ⟨passed, passage⟩ := closing.row_passes (closing.row row ('\n' :: lower))
  have stops := passage.overflow?_eq (Nat.zero_le limit)
  have none : Passage.firstBeyond? limit 0 passed = none := by
    cases beyond : Passage.firstBeyond? limit 0 passed with
    | none => rfl
    | some bracket =>
      -- the scan would stop at a bracket of the upper text, but it can only stop behind it
      have inRules := passage.length_lt bracket (Passage.mem_of_firstBeyond? beyond)
      rw [Nat.cast_zero, beyond, Option.some_or] at stops
      have behind := (Source.overflow?_append_isSuffix passes stops).length_le
      rw [List.length_append] at inRules
      omega
  obtain ⟨start, lowerLayout⟩ := layout_total lower
  have upperLayout := (read_layout_line layoutRead lower).trans lowerLayout
  rw [stops, Nat.cast_zero, none, Option.none_or, Source.overflow?_layout upperLayout,
    Source.overflow?_layout lowerLayout]

end Grammar

/-! ### Places -/

namespace Source

/-- A place below a text is further down, in the same column. -/
theorem Position.behind_below (upper before : List Char) :
    Position.behind (upper ++ '\n' :: before) =
      { offset := (Position.behind before).offset + (byteLength upper + 1)
        line := (Position.behind before).line + (upper.count '\n' + 1)
        column := (Position.behind before).column } := by
  have newline : byteLength ('\n' :: before) = 1 + byteLength before := rfl
  have stopped : (before.reverse ++ '\n' :: upper.reverse).takeWhile (· != '\n') =
      before.reverse.takeWhile (· != '\n') := by
    rw [List.takeWhile_append]
    split
    · rename_i passed
      have all := (List.takeWhile_prefix _).eq_of_length passed
      rw [List.takeWhile_cons_of_neg (by simp), List.append_nil, all]
    · rfl
  simp only [behind, byteLength_append, newline, List.count_append, List.count_cons_self,
    List.reverse_append, List.reverse_cons, List.append_assoc, List.singleton_append, stopped,
    mk.injEq, and_true]
  omega

/-- An error about the lower text is the same error below the upper one. -/
theorem errorAt_below {upper lower rest : List Char} (suffix : rest <:+ lower)
    (message : String) :
    errorAt (upper ++ '\n' :: lower) rest message =
      { message
        position :=
          { offset := (errorAt lower rest message).position.offset + (byteLength upper + 1)
            line := (errorAt lower rest message).position.line + (upper.count '\n' + 1)
            column := (errorAt lower rest message).position.column } } := by
  obtain ⟨before, rfl⟩ := suffix
  have form : upper ++ '\n' :: (before ++ rest) = (upper ++ '\n' :: before) ++ rest := by simp
  simp only [form, errorAt_append, Position.behind_below]

end Source

/-! ### Sources -/

namespace Rule

section AnyEngine

variable [RegexEngine]

/-- A source of rules passes the scan and is read by the grammar. -/
theorem parseAll_accepts {source : String} {rules : List Rule}
    (accepted : Rule.parseAll source = .ok rules) :
    Source.overflow? Source.nestingLimit 0 source.toList = none ∧
      ∃ rest, (Grammar.allRules Source.nestingLimit).read source.toList = .ok (rules, rest) :=
  Source.read_accepts_iff.mp accepted

/-- Rule files concatenate. Below a text of rules every other text means what it means alone:
its rules follow those of the upper text, and its error is the same error with the same column,
as many lines further down as the upper text has, and as many bytes. -/
theorem parseAll_below {upper : String} {rules : List Rule}
    (accepted : Rule.parseAll upper = .ok rules) (lower : String) :
    (∀ others, Rule.parseAll lower = .ok others →
      Rule.parseAll (upper ++ "\n" ++ lower) = .ok (rules ++ others)) ∧
    ∀ error, Rule.parseAll lower = .error error →
      Rule.parseAll (upper ++ "\n" ++ lower) = .error {
        message := error.message
        position := {
          offset := error.position.offset + (Source.byteLength upper.toList + 1)
          line := error.position.line + (upper.toList.count '\n' + 1)
          column := error.position.column } } := by
  obtain ⟨passes, rest, read⟩ := parseAll_accepts accepted
  have form : (upper ++ "\n" ++ lower).toList = upper.toList ++ '\n' :: lower.toList := by
    simp [String.toList_append]
  have scanned := Grammar.overflow?_below read passes lower.toList
  have readBelow := Grammar.read_allRules_below read lower.toList
  have inLower := (Grammar.allRules Source.nestingLimit).left_isSuffix lower.toList
  simp only [Rule.parseAll, Source.read, form, scanned, readBelow]
  cases stops : Source.overflow? Source.nestingLimit 0 lower.toList with
  | some place =>
    constructor
    · intro others impossible
      cases impossible
    · rintro _ ⟨⟩
      exact congrArg Except.error (Source.errorAt_below (Source.overflow?_isSuffix stops) _)
  | none =>
    cases reply : (Grammar.allRules Source.nestingLimit).read lower.toList with
    | ok found =>
      constructor
      · rintro _ ⟨⟩
        rfl
      · intro error impossible
        cases impossible
    | error refusal =>
      rw [reply] at inLower
      dsimp only
      split <;> constructor
      · intro others impossible
        cases impossible
      · rintro _ ⟨⟩
        exact congrArg Except.error (Source.errorAt_below inLower _)
      · intro others impossible
        cases impossible
      · rintro _ ⟨⟩
        exact congrArg Except.error (Source.errorAt_below inLower _)

/-- A text of one rule that ends in a comment without a line break. -/
def endingInComment : String :=
  "rule \"\u00e4\" on any \x7b\n ensure: hidden report: \"(\" \x7d // rule ("

/-- The rule of that text. -/
def commentedRule : Rule where
  name := "\u00e4"
  selectors := [.any]
  details := .empty
  guard := none
  ensure := .state .hidden
  report := "("

/-- A text that is refused at a comma in its second line. -/
def refusedAtComma : String := "# \n  rule \"b\" on any, "

end AnyEngine

/-- The comment does not reach into the text below, whether that is read or refused. What is
refused at its own second line is refused at the fourth one of both texts. -/
theorem parseAll_below_endingInComment :
    Rule.parseAll endingInComment = .ok [commentedRule] ∧
      Rule.parseAll (endingInComment ++ "\n" ++ endingInComment) =
        .ok [commentedRule, commentedRule] ∧
      Rule.parseAll refusedAtComma = .error {
        message := "expected \x60\x7b\x60", position := ⟨20, 2, 18⟩ } ∧
      Rule.parseAll (endingInComment ++ "\n" ++ refusedAtComma) = .error {
        message := "expected \x60\x7b\x60", position := ⟨79, 4, 18⟩ } := by
  have accepted : Rule.parseAll endingInComment = .ok [commentedRule] := by decide +kernel
  have refused : Rule.parseAll refusedAtComma = .error {
      message := "expected \x60\x7b\x60", position := ⟨20, 2, 18⟩ } := by decide +kernel
  refine ⟨accepted, (parseAll_below accepted endingInComment).1 _ accepted, refused, ?_⟩
  refine ((parseAll_below accepted refusedAtComma).2 _ refused).trans ?_
  decide +kernel

end Rule

end WidgetAudit
