import WidgetAudit.Pattern.GapEngine
import WidgetAudit.Proofs.Grammar.Details
import WidgetAudit.Proofs.Rule.Reading

/-!
# Printing and reading rules

A rule is read back from its printed text, whatever its name, its report, its details and the
keys of its properties are, if every other part of it can be written at all. `isPrintable`
says what can: selectors with identifiers as arguments, at least one of them, and normal
expressions. `nesting` counts the parentheses that the text opens at once, and beyond the
limit the same text is refused, so the bound of the law cannot be raised.
-/

namespace WidgetAudit

/-- The argument of a selector stands in parentheses. -/
def Selector.nesting : Selector → Nat
  | .any => 0
  | .role _ | .type _ | .kind _ => 1

namespace Rule

/-! ### Parentheses -/

/-- A printed selector opens the parentheses of its argument. -/
theorem opens_writtenSelector {target : Selector} (printable : target.isPrintable = true) :
    Source.Opens target.nesting target.written := by
  have argument : ∀ (word : String) {name : String}, word.toList.all Source.isPlain = true →
      isIdentifier name = true →
      Source.Opens 1 (word.toList ++ ('(' :: (name.toList ++ [')']))) := by
    intro word name plain isName
    exact (Source.opens_identifier isName).enclosed.behind
      (Source.opens_plain plain)
  cases target with
  | any => exact Source.opens_plain (by decide)
  | role name => exact argument "role" (by decide) printable
  | type name => exact argument "type" (by decide) printable
  | kind name => exact argument "kind" (by decide) printable

/-- Printed selectors open the larger number of their own. -/
theorem opens_writtenSelectors {targets : List Selector}
    (printable : ∀ target ∈ targets, target.isPrintable = true) :
    Source.Opens ((targets.map Selector.nesting).foldr max 0)
      (" || ".toList.intercalate (targets.map Selector.written)) := by
  have separator : Source.Opens 0 " || ".toList := Source.opens_plain (by decide)
  have further : ∀ others : List Selector, (∀ target ∈ others, target.isPrintable = true) →
      Source.Opens ((others.map Selector.nesting).foldr max 0)
        ((others.map Selector.written).flatMap (" || ".toList ++ ·)) := by
    intro others all
    induction others with
    | nil => exact Source.opens_nil
    | cons target later inductionHypothesis =>
      have targetOpens := opens_writtenSelector (all target List.mem_cons_self)
      exact (targetOpens.behind separator).append
        (inductionHypothesis fun other member => all other (List.mem_cons_of_mem _ member))
  cases targets with
  | nil => exact Source.opens_nil
  | cons first others =>
    rw [List.map_cons, List.map_cons, Grammar.intercalate_cons]
    exact (opens_writtenSelector (printable first List.mem_cons_self)).append
      (further others fun target member => printable target (List.mem_cons_of_mem _ member))

/-- Printed details open nothing. -/
theorem opens_writtenDetails (known : NameTable String) :
    Source.Opens 0 (writtenDetails known) := by
  have key : ∀ name : String, Source.Opens 0 (writtenKey name.toList) := by
    intro name
    unfold writtenKey
    split
    · rename_i bare
      rw [Grammar.isBareKey_toList] at bare
      exact Source.opens_identifier bare
    · exact Source.opens_quoted name.toList
  have entry : ∀ detail : String × String, Source.Opens 0 (writtenDetail detail) := by
    intro detail
    have gap : Source.Opens 0 "        ".toList := Source.opens_plain (by decide)
    have indented := (key detail.1).behind gap
    exact ((indented.before (Source.opens_plain (by decide))).before
      (Source.opens_quoted detail.2.toList)).before (Source.opens_plain (by decide))
  have entries : ∀ details : List (String × String),
      Source.Opens 0 (details.flatMap writtenDetail) := by
    intro details
    induction details with
    | nil => exact Source.opens_nil
    | cons detail later inductionHypothesis => exact (entry detail).append inductionHypothesis
  unfold writtenDetails
  split
  · exact Source.opens_nil
  · exact ((entries known.entries).behind (Source.opens_plain (by decide))).before
      (Source.opens_plain (by decide))

/-! ### Rules that can be written -/

section AnyEngine

variable [RegexEngine]

/-- Every part of the rule has a written form that means it. -/
def isPrintable (rule : Rule) : Bool :=
  !rule.selectors.isEmpty && rule.selectors.all Selector.isPrintable &&
    rule.guard.all Expr.isNormal && rule.ensure.isNormal

/-- Every part of the rule can be written down, although its expressions may be read back as
others. -/
def isWritable (rule : Rule) : Bool :=
  !rule.selectors.isEmpty && rule.selectors.all Selector.isPrintable &&
    rule.guard.all Expr.isWritable && rule.ensure.isWritable

/-- What a rule is read back as that has been written down. -/
def reread (rule : Rule) : Rule :=
  { rule with guard := rule.guard.map Expr.reread, ensure := rule.ensure.reread }

/-- The greatest number of parentheses that are open at once in the written form of a
rule. -/
def nesting (rule : Rule) : Nat :=
  max (max ((rule.selectors.map Selector.nesting).foldr max 0)
    ((rule.guard.map Expr.nesting).getD 0)) rule.ensure.nesting

/-- A printed expression opens as many parentheses as its nesting says. -/
theorem opens_writtenExpr {expr : Expr} (writable : expr.isWritable = true) :
    Source.Opens expr.nesting expr.written := by
  have opens : Source.Opens (Rendering.ofWritten expr).nesting (Rendering.ofWritten expr).text :=
    Source.opens_rendering ((Rendering.expr_ofWritten expr).symm ▸ Expr.isNormal_reread writable)
  rwa [Rendering.text_ofWritten, Rendering.nesting_ofWritten] at opens

/-- A printed guard opens the parentheses of its expression. -/
theorem opens_writtenGuard {guard : Option Expr}
    (writable : ∀ expr, guard = some expr → expr.isWritable = true) :
    Source.Opens ((guard.map Expr.nesting).getD 0) (writtenGuard guard) := by
  cases guard with
  | none => exact Source.opens_nil
  | some expr =>
    exact ((opens_writtenExpr (writable expr rfl)).behind (Source.opens_plain (by decide))).before
      (Source.opens_plain (by decide))

/-- The parts of a printable rule can be written. -/
theorem parts_of_isPrintable {rule : Rule} (printable : rule.isPrintable = true) :
    rule.selectors ≠ [] ∧ (∀ target ∈ rule.selectors, target.isPrintable = true) ∧
      (∀ expr, rule.guard = some expr → expr.isNormal = true) ∧ rule.ensure.isNormal = true := by
  simp only [isPrintable, Bool.and_eq_true, Bool.not_eq_true', List.isEmpty_eq_false_iff,
    List.all_eq_true] at printable
  obtain ⟨⟨⟨nonempty, selectors⟩, guard⟩, ensure⟩ := printable
  refine ⟨nonempty, selectors, ?_, ensure⟩
  intro expr present
  rwa [present, Option.all_some] at guard

/-- A printable rule can be written down. -/
theorem isWritable_of_isPrintable {rule : Rule} (printable : rule.isPrintable = true) :
    rule.isWritable = true := by
  obtain ⟨nonempty, selectors, guard, ensure⟩ := parts_of_isPrintable printable
  simp only [isWritable, Bool.and_eq_true, Bool.not_eq_true', List.isEmpty_eq_false_iff,
    List.all_eq_true, Option.all_eq_true]
  exact ⟨⟨⟨nonempty, selectors⟩, fun expr present =>
    Expr.isWritable_of_isNormal (guard expr present)⟩, Expr.isWritable_of_isNormal ensure⟩

/-- A printable rule is read back as itself. -/
theorem reread_of_isPrintable {rule : Rule} (printable : rule.isPrintable = true) :
    rule.reread = rule := by
  obtain ⟨_, _, guard, ensure⟩ := parts_of_isPrintable printable
  have sameGuard : rule.guard.map Expr.reread = rule.guard := by
    cases present : rule.guard with
    | none => rfl
    | some expr => rw [Option.map_some, Expr.reread_of_isNormal (guard expr present)]
  rw [reread, sameGuard, Expr.reread_of_isNormal ensure]

/-- The parts of a rule that can be written down can be. -/
theorem parts_of_isWritable {rule : Rule} (writable : rule.isWritable = true) :
    rule.selectors ≠ [] ∧ (∀ target ∈ rule.selectors, target.isPrintable = true) ∧
      (∀ expr, rule.guard = some expr → expr.isWritable = true) ∧
        rule.ensure.isWritable = true := by
  simp only [isWritable, Bool.and_eq_true, Bool.not_eq_true', List.isEmpty_eq_false_iff,
    List.all_eq_true, Option.all_eq_true] at writable
  obtain ⟨⟨⟨nonempty, selectors⟩, guard⟩, ensure⟩ := writable
  exact ⟨nonempty, selectors, guard, ensure⟩

/-- A rule that has been written down opens as many parentheses as its nesting says. -/
theorem opens_of_isWritable {rule : Rule} (writable : rule.isWritable = true) :
    Source.Opens rule.nesting rule.written := by
  obtain ⟨_, selectors, guard, ensure⟩ := parts_of_isWritable writable
  have plain : ∀ word : List Char, word.all Source.isPlain = true → Source.Opens 0 word :=
    fun _ => Source.opens_plain
  have name := (Source.opens_quoted rule.name.toList).behind (plain "rule ".toList (by decide))
  have head := ((opens_writtenSelectors selectors).behind
    (name.before (plain " on ".toList (by decide)))).before (plain " \x7b\n".toList (by decide))
  have guarded := (head.before (opens_writtenDetails rule.details)).append
    (opens_writtenGuard guard)
  have ensured := (guarded.before (plain "    ensure: ".toList (by decide))).append
    (opens_writtenExpr ensure)
  have reported := ((ensured.before (plain ['\n'] (by decide))).before
    (plain "    report: ".toList (by decide))).before (Source.opens_quoted rule.report.toList)
  exact reported.before (plain "\n\x7d".toList (by decide))

/-- A printed rule opens as many parentheses as its nesting says. -/
theorem opens_written {rule : Rule} (printable : rule.isPrintable = true) :
    Source.Opens rule.nesting rule.written :=
  opens_of_isWritable (isWritable_of_isPrintable printable)

/-! ### Reading -/

/-- The lines behind the details: the guard, if there is one, the assertion and the report. -/
def writtenClauses (rule : Rule) : List Char :=
  writtenGuard rule.guard ++ ("    ensure: ".toList ++ (rule.ensure.written ++
    '\n' :: ("    report: ".toList ++ (Quoted.written rule.report.toList ++ "\n\x7d".toList))))

/-- A printed rule is its head, its details and its clauses. -/
theorem written_eq (rule : Rule) :
    rule.written = "rule".toList ++ ' ' :: (Quoted.written rule.name.toList ++
      ' ' :: ("on".toList ++ ' ' :: (" || ".toList.intercalate
        (rule.selectors.map Selector.written) ++ ' ' :: '{' ::
          ('\n' :: (writtenDetails rule.details ++ rule.writtenClauses))))) := by
  have begins : "rule ".toList = "rule".toList ++ [' '] := rfl
  have joins : " on ".toList = ' ' :: ("on".toList ++ [' ']) := rfl
  have opens : " \x7b\n".toList = [' ', '{', '\n'] := rfl
  unfold written writtenClauses
  simp only [List.append_assoc, List.cons_append, List.nil_append, begins, joins, opens]

/-- The grammar reads a rule that has been written down, as what its expressions are read back
as. -/
theorem read_of_isWritable {rule : Rule} (writable : rule.isWritable = true) {depth : Nat}
    (fits : rule.nesting ≤ depth) :
    (Grammar.rule depth).read rule.written = .ok (rule.reread, []) := by
  obtain ⟨nonempty, selectors, guard, ensure⟩ := parts_of_isWritable writable
  obtain ⟨othersFit, ensureFits⟩ := Nat.max_le.mp fits
  have guardFits : ∀ expr, rule.guard = some expr → expr.nesting ≤ depth := by
    intro expr present
    have within := (Nat.max_le.mp othersFit).2
    rwa [present] at within
  have blank : Grammar.IsGap Grammar.closingGap := Grammar.isGap_closing
  have lastBlank : Grammar.IsGap ['\n'] := rfl
  let reported : List Char := "report".toList ++ ':' :: ' ' ::
    (Quoted.written rule.report.toList ++ (['\n'] ++ '}' :: []))
  let ensured : List Char := "ensure".toList ++ ':' :: ' ' ::
    (rule.ensure.written ++ (Grammar.closingGap ++ reported))
  have behindGuard : rule.writtenClauses = writtenGuard rule.guard ++ ("    ".toList ++ ensured) :=
    rfl
  have followsEnsure : Grammar.Follows 0 (Grammar.closingGap ++ reported) :=
    Grammar.follows_clause 0 (by decide) blank (.inr rfl) _
  have followsGuard : Grammar.Follows 0 (Grammar.closingGap ++ ensured) :=
    Grammar.follows_clause 0 (by decide) blank (.inl rfl) _
  have noGuard : (Grammar.clause depth "when").Declines (Grammar.closingGap ++ ensured) :=
    Grammar.declines_clause blank "ensure" (by decide) (by decide) _
  have noDetails : Grammar.details.Declines ('\n' :: rule.writtenClauses) := by
    rw [behindGuard]
    cases rule.guard with
    | none => exact Grammar.declines_details blank "ensure" (by decide) (by decide) _
    | some expr => exact Grammar.declines_details blank "when" (by decide) (by decide) _
  obtain ⟨found, detailsRead, same⟩ := Grammar.read_writtenDetails rule.details noDetails
  have selectorsRead := Grammar.read_selectors rule.selectors nonempty selectors
    ('\n' :: (writtenDetails rule.details ++ rule.writtenClauses))
  have guardRead := Grammar.read_writtenGuard guard guardFits noGuard followsGuard
  have ensureRead := Grammar.read_writtenClause blank "ensure" (by decide) ensure
    ensureFits followsEnsure
  rw [written_eq, Grammar.read_rule selectorsRead detailsRead guardRead ensureRead blank lastBlank,
    same, reread]

/-- The grammar reads a printed rule. -/
theorem read_written {rule : Rule} (printable : rule.isPrintable = true) {depth : Nat}
    (fits : rule.nesting ≤ depth) : (Grammar.rule depth).read rule.written = .ok (rule, []) := by
  rw [read_of_isWritable (isWritable_of_isPrintable printable) fits,
    reread_of_isPrintable printable]

/-- Beyond 128 parentheses the printed text is refused before it is read, so only the scan
keeps the printer from being undone. -/
theorem parse_text_overNested {rule : Rule} (printable : rule.isPrintable = true)
    (deep : 128 < rule.nesting) :
    ∃ error, Rule.parse rule.text = .error error ∧ error.message = Source.nestingMessage := by
  have beyond : Source.nestingLimit < 0 + rule.nesting := by
    rw [Nat.zero_add]
    exact deep
  have stopped := (opens_written printable).stopped (Nat.zero_le _) beyond []
  rw [List.append_nil] at stopped
  obtain ⟨rest, overflows⟩ := Option.isSome_iff_exists.mp stopped
  refine ⟨Source.errorAt rule.written rest Source.nestingMessage, ?_, rfl⟩
  simp only [Rule.parse, Source.read, text, String.toList_ofList, overflows]

/-- Reading undoes printing. A printable rule that opens at most 128 parentheses at once is
read back from its text, whatever texts it carries. -/
theorem parse_text {rule : Rule} (printable : rule.isPrintable = true)
    (fits : rule.nesting ≤ 128) : Rule.parse rule.text = .ok rule :=
  parse_of_read ((opens_written printable).overflow?_eq_none fits) (read_written printable fits)

/-- A rule whose texts look like parts of a rule. -/
def misleadingTexts : Rule where
  name := "a \"rule\" (\n"
  selectors := [.any, .role "role", .kind "on"]
  details := .ofList [("meta", "\x7b"), ("see also", "// no comment")]
  guard := some (.binary .equal (.property "as int" (.cast .int))
    (.literal (.float (.finite false (2 ^ 52) (-53) (by decide)))))
  ensure := .binary .matching (.unary .not (.name "matches"))
    (.quantified .children .any (.binary .divide (.name "children") (.name "prop")))
  report := "# ) \\"

end AnyEngine

/-- It is read back nevertheless. -/
theorem parse_text_misleadingTexts :
    misleadingTexts.isPrintable = true ∧ misleadingTexts.nesting = 3 ∧
      Rule.parse misleadingTexts.text = .ok misleadingTexts :=
  ⟨by decide, by decide, parse_text (by decide) (by decide)⟩

end Rule

end WidgetAudit
