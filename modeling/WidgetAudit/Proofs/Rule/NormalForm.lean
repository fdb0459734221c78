import WidgetAudit.Pattern.GapEngine
import WidgetAudit.Proofs.Evaluation.Faults
import WidgetAudit.Proofs.Rule.Sources
import WidgetAudit.Widget.Tree

/-!
# The normal form of rules

Whatever a source says, the rules that it gives are of one form. The form is stated here part by
part, for selectors, literals, names and searches alike: the grammar has no null value, a sign in
front of a number is an operator, a word that means a state is no name, and a quoted pattern
behind `matches` has been compiled. So a pattern can only be found faulty while a rule is
evaluated if the rule computes it.
-/

namespace WidgetAudit

section AnyEngine

variable [RegexEngine]

/-- The form of the expressions that a source gives. -/
structure Expr.InNormalForm (expr : Expr) : Prop where
  noNull : .literal .null ∉ expr.parts
  unsigned : ∀ number, .literal (.int number) ∈ expr.parts → 0 ≤ number.toInt
  /-- A floating-point number is finite and has no sign, not even that of a negative zero. -/
  finite : ∀ number, .literal (.float number) ∈ expr.parts →
    ∃ significand exponent canonical, number = .finite false significand exponent canonical
  /-- A name is an identifier without another meaning. -/
  bare : ∀ identifier, .name identifier ∈ expr.parts → isIdentifier identifier = true ∧
    identifier ≠ "true" ∧ identifier ≠ "false" ∧ ∀ state : NodeState, identifier ≠ state.word
  compiled : ∀ subject pattern, .search subject pattern ∈ expr.parts →
    Pattern.compile pattern.source = .ok pattern
  /-- A text behind `matches` is a pattern, and no operand. -/
  noText : ∀ left text, .binary .matching left (.literal (.string text)) ∉ expr.parts

/-- Every part of a normal expression is normal. -/
theorem Expr.isNormal_of_mem_parts {whole part : Expr} (normal : whole.isNormal = true)
    (member : part ∈ whole.parts) : part.isNormal = true := by
  have ofTail {expr : Expr} {inside : List Expr} (isNormal : expr.isNormal = true)
      (later : part ∈ inside → part.isNormal = true) (member : part ∈ expr :: inside) :
      part.isNormal = true := by
    rcases List.mem_cons.mp member with rfl | inInside
    · exact isNormal
    · exact later inInside
  induction whole with
  | unary operator operand inductionHypothesis =>
    exact ofTail normal (inductionHypothesis normal) member
  | binary operator left right leftHypothesis rightHypothesis =>
    have both := normal
    simp only [isNormal, Bool.and_eq_true] at both
    refine ofTail normal (fun inside => ?_) member
    rcases List.mem_append.mp inside with inLeft | inRight
    · exact leftHypothesis both.1.1 inLeft
    · exact rightHypothesis both.1.2 inRight
  | search subject pattern inductionHypothesis =>
    exact ofTail normal (inductionHypothesis normal) member
  | quantified relation quantifier body inductionHypothesis =>
    exact ofTail normal (inductionHypothesis normal) member
  | _ =>
    rw [List.mem_singleton.mp member]
    exact normal

/-- A normal expression is in normal form: what holds of it by recursion holds of each part. -/
theorem Expr.inNormalForm_of_isNormal {expr : Expr} (normal : expr.isNormal = true) :
    expr.InNormalForm where
  noNull member := Bool.noConfusion (isNormal_of_mem_parts normal member)
  unsigned number member := by
    simpa [isNormal, Value.isNormal] using isNormal_of_mem_parts normal member
  finite number member := by
    have isNormal := isNormal_of_mem_parts normal member
    cases number with
    | finite negative significand exponent canonical =>
      obtain rfl : negative = false := by simpa [Expr.isNormal, Value.isNormal] using isNormal
      exact ⟨significand, exponent, canonical, rfl⟩
    | nan => cases isNormal
    | infinite negative => cases isNormal
  bare identifier member := by
    have isBare := isNormal_of_mem_parts normal member
    simp only [isNormal, isBareName, Bool.and_eq_true, bne_iff_ne, Option.isNone_iff_eq_none]
      at isBare
    obtain ⟨⟨⟨isName, notTrue⟩, notFalse⟩, noState⟩ := isBare
    refine ⟨isName, notTrue, notFalse, ?_⟩
    rintro state rfl
    cases noState.symm.trans (NodeState.ofWord?_word state)
  compiled _ _ _ := Pattern.compile_eq_ok_iff.mpr rfl
  noText left text member := by
    have isNormal := isNormal_of_mem_parts normal member
    simp [Expr.isNormal, isText] at isNormal

namespace Rule

/-- The form of the rules that a source gives. -/
structure InNormalForm (rule : Rule) : Prop where
  selected : rule.selectors ≠ []
  /-- What a selector asks for is an identifier, and so it is not empty. -/
  named : ∀ name, (.role name ∈ rule.selectors ∨ .type name ∈ rule.selectors ∨
    .kind name ∈ rule.selectors) → isIdentifier name = true
  expressions : ∀ expr ∈ rule.expressions, expr.InNormalForm

/-- A printable rule is in normal form. -/
theorem inNormalForm_of_isPrintable {rule : Rule} (printable : rule.isPrintable = true) :
    rule.InNormalForm := by
  obtain ⟨nonempty, selectors, _, _⟩ := parts_of_isPrintable printable
  refine ⟨nonempty, ?_, ?_⟩
  · rintro name (role | type | kind)
    · exact selectors _ role
    · exact selectors _ type
    · exact selectors _ kind
  · exact fun expr member =>
      Expr.inNormalForm_of_isNormal (isNormal_of_mem_expressions printable member)

/-- Every rule that a source gives is in normal form. So when its evaluation finds a faulty
pattern, the pattern is one that has been computed: the text of the value of an operand of
`matches` that is no quoted text. -/
theorem normal_of_isReadFrom {source : String} {rule : Rule} (given : rule.IsReadFrom source) :
    rule.InNormalForm ∧
      ∀ {ν : Type} (interpreter : Interpreter) (host : Host ν) (node : ν) (text : String)
        (fault : Pattern.Fault),
        interpreter.evaluate host rule node = .error (.invalidPattern text fault) →
          ∃ expr ∈ rule.expressions, ∃ left right, .binary .matching left right ∈ expr.parts ∧
            (∀ quoted, right ≠ .literal (.string quoted)) ∧
            Pattern.compile text = .error fault ∧
            ∃ depth place value, value.text = text ∧
              right.evaluateAt host interpreter.depthLimit depth place = .ok value := by
  obtain ⟨input, rest, _, read⟩ := given.read
  have normal := inNormalForm_of_isPrintable (Grammar.rule_yields _ read)
  refine ⟨normal, ?_⟩
  intro ν interpreter host node text fault fails
  obtain ⟨expr, member, raised⟩ := evaluate_raisedIn interpreter host rule node _ fails
  cases raised with
  | @pattern left right depth place value _ isPart computed faulty =>
    refine ⟨expr, member, left, right, isPart, ?_, faulty, depth, place, value, rfl, computed⟩
    rintro quoted rfl
    exact (normal.expressions expr member).noText left quoted isPart

/-- A rule that takes the role of a node for a pattern. -/
def searchedRole : Rule where
  name := "r"
  selectors := [.type "Field", .any]
  details := .empty
  guard := some (.binary .less (.unary .negate (.literal (.int 1))) (.name "size"))
  ensure := .binary .matching (.name "label") (.name "role")
  report := "x"

/-- The source of that rule. -/
def searchedRoleSource : String :=
  "rule \"r\" on type(Field) || any \x7b when: -1 < size ensure: label matches role " ++
    "report: \"x\" \x7d"

/-- What the engine that searches by gaps says about a group that is not closed. -/
def unclosedGroup : Pattern.Fault := ⟨"regex parse error: unclosed group"⟩

/-- A widget whose role is no pattern. -/
def unclosedRole : WidgetTree :=
  let widget : Widget := { role := "(", type := "Field" }
  .ofNested (.node (widget.set "label" (.string "a") |>.set "size" (.int 0)) [])

end Rule

end AnyEngine

/-- The rule has been read, and yet its pattern is faulty at a node. -/
theorem Rule.normal_searchedRole :
    Rule.parse searchedRoleSource = .ok searchedRole ∧ searchedRole.InNormalForm ∧
      Interpreter.evaluate {} unclosedRole.host searchedRole 0 =
        .error (.invalidPattern "(" unclosedGroup) ∧
      ∃ expr ∈ searchedRole.expressions, ∃ left right,
        .binary .matching left right ∈ expr.parts ∧ (∀ quoted, right ≠ .literal (.string quoted)) ∧
        Pattern.compile "(" = .error unclosedGroup ∧ ∃ depth place value, value.text = "(" ∧
          right.evaluateAt unclosedRole.host none depth place = .ok value := by
  have given : Rule.parse searchedRoleSource = .ok searchedRole := by decide +kernel
  have fails : Interpreter.evaluate {} unclosedRole.host searchedRole 0 =
      .error (.invalidPattern "(" unclosedGroup) := by decide +kernel
  obtain ⟨normal, computed⟩ := normal_of_isReadFrom (.inl given)
  exact ⟨given, normal, fails, computed {} unclosedRole.host 0 "(" unclosedGroup fails⟩

end WidgetAudit
