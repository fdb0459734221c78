import WidgetAudit.Grammar.RuleText
import WidgetAudit.Proofs.Grammar.Precedence
import WidgetAudit.Rule.Written

/-!
# The parts of a rule

The parts of a rule are read back one after the other, behind any blanks: its selectors, its
clauses and its report. `read_rule` puts them together. It leaves open how the body is laid
out, so that a rule on one line and a printed one are both cases of it.
-/

namespace WidgetAudit

/-- The argument of a selector stands between parentheses without quotes, so it has to be an
identifier. -/
def Selector.isPrintable : Selector → Bool
  | .any => true
  | .role name | .type name | .kind name => isIdentifier name

namespace Grammar

open Reader

/-! ### Selectors -/

/-- The argument of a selector is read between its parentheses. -/
theorem read_selectorArgument {name : String} (isName : isIdentifier name = true)
    (following : List Char) :
    selectorArgument.read ('(' :: (name.toList ++ ')' :: following)) = .ok (name, following) := by
  have opens : IsSolid ('(' :: (name.toList ++ ')' :: following)) := isSolid_cons rfl _
  have closes : IsSolid (')' :: following) := isSolid_cons rfl following
  rw [selectorArgument, read_bind (read_sign (read_layout_solid opens)),
    read_bind (read_layout_solid (isSolid_of_isIdentifier isName _)),
    read_bind (read_identifier isName (endsName_cons (by decide) following)),
    read_map (read_sign (read_layout_solid closes))]

/-- A selector with an argument is read from its word and its argument. -/
theorem read_namedSelector {word name : String} (isWord : isIdentifier word = true)
    (isName : isIdentifier name = true) (make : String → Selector) (following : List Char) :
    (do keyword word; let name ← commit selectorArgument; return make name :
        Reader Selector).read (word.toList ++ '(' :: (name.toList ++ ')' :: following)) =
      .ok (make name, following) := by
  have wordRead : (keyword word).read (word.toList ++ '(' :: (name.toList ++ ')' :: following)) =
      .ok ((), '(' :: (name.toList ++ ')' :: following)) :=
    read_keyword isWord (endsName_cons (by decide) _)
  rw [read_bind wordRead, read_map (read_commit (read_selectorArgument isName following))]

/-- An alternative that begins with another word is passed over. -/
theorem read_otherSelector {word other : String} (isWord : isIdentifier word = true)
    (differs : word ≠ other) (next : Unit → Reader Selector) (second : Reader Selector)
    (later : List Char) :
    (keyword other >>= next <|> second).read (word.toList ++ '(' :: later) =
      second.read (word.toList ++ '(' :: later) := by
  have noWord : (keyword other).Declines (word.toList ++ '(' :: later) :=
    declines_keyword_of_name differs isWord (endsName_cons (by decide) later)
  exact (noWord.bind next).read_orElse second

/-- A selector is read from its written form. -/
theorem read_selector {gap following : List Char}
    (blank : IsGap gap) {target : Selector}
    (printable : target.isPrintable = true) (ends : EndsName following) :
    selector.read (gap ++ (target.written ++ following)) = .ok (target, following) := by
  have solid : IsSolid (target.written ++ following) := by
    cases target <;> exact isSolid_of_isNameStart (by decide) _
  rw [selector, read_bind (read_layout blank solid)]
  refine read_remarking ?_ _
  have form : ∀ word name : String, (word.toList ++ '(' :: name.toList ++ [')']) ++ following =
      word.toList ++ '(' :: (name.toList ++ ')' :: following) := by simp
  cases target with
  | any => exact read_orElse (read_map (read_keyword (by decide) ends) _) _
  | role name =>
    refine (congrArg _ (form "role" name)).trans ?_
    rw [read_otherSelector (by decide) (by decide)]
    exact read_orElse (read_namedSelector (by decide) printable _ following) _
  | type name =>
    refine (congrArg _ (form "type" name)).trans ?_
    rw [read_otherSelector (by decide) (by decide), read_otherSelector (by decide) (by decide)]
    exact read_orElse (read_namedSelector (by decide) printable _ following) _
  | kind name =>
    refine (congrArg _ (form "kind" name)).trans ?_
    rw [read_otherSelector (by decide) (by decide),
      read_otherSelector (by decide) (by decide), read_otherSelector (by decide) (by decide)]
    exact read_namedSelector (by decide) printable _ following

/-- Between two items of a list there is one separator. -/
theorem intercalate_cons (separator first : List Char) (others : List (List Char)) :
    separator.intercalate (first :: others) = first ++ others.flatMap (separator ++ ·) := by
  induction others generalizing first with
  | nil => simp [List.intercalate]
  | cons second later inductionHypothesis =>
    have step : separator.intercalate (first :: second :: later) =
        first ++ (separator ++ separator.intercalate (second :: later)) := by
      simp [List.intercalate]
    rw [step, inductionHypothesis, List.flatMap_cons, List.append_assoc]

/-- The opening brace of a body ends the selectors. -/
theorem declines_furtherSelector (body : List Char) :
    furtherSelector.Declines (' ' :: '{' :: body) := by
  have solid : IsSolid ('{' :: body) := isSolid_cons rfl body
  have noSign : (Reader.text "||").Declines ('{' :: body) := declines_text rfl
  exact declines_bind_next (read_layout_space solid) (noSign.bind _)

/-- Every further selector is read behind its separator. -/
theorem read_furtherSelectors {others : List Selector}
    (printable : ∀ target ∈ others, target.isPrintable = true) (body : List Char) :
    (many furtherSelector consumes_furtherSelector).read
        (others.flatMap (fun target => " || ".toList ++ target.written) ++ ' ' :: '{' :: body) =
      .ok (others, ' ' :: '{' :: body) := by
  induction others with
  | nil => exact (declines_furtherSelector body).read_many consumes_furtherSelector
  | cons target later inductionHypothesis =>
    have laterRead := inductionHypothesis fun other member =>
      printable other (List.mem_cons_of_mem _ member)
    refine read_many_cons consumes_furtherSelector ?_ laterRead
    have ends : EndsName (later.flatMap (fun target => " || ".toList ++ target.written) ++
        ' ' :: '{' :: body) := by
      cases later <;> exact endsName_space _
    have solid : ∀ rest, IsSolid ("||".toList ++ rest) := by
      intro rest
      change IsSolid ('|' :: '|' :: rest)
      exact isSolid_cons rfl _
    have targetRead := read_selector isGap_space (printable target List.mem_cons_self) ends
    rw [List.flatMap_cons, List.append_assoc, List.append_assoc, furtherSelector]
    refine Eq.trans (read_bind (read_layout_space (solid _)) _) ?_
    rw [read_bind (read_text "||" _)]
    exact read_commit targetRead

/-- Selectors are read from their written form, up to the brace of the body. -/
theorem read_selectors (targets : List Selector) (nonempty : targets ≠ [])
    (printable : ∀ target ∈ targets, target.isPrintable = true) (body : List Char) :
    selectors.read (' ' :: (" || ".toList.intercalate (targets.map Selector.written) ++
        ' ' :: '{' :: body)) = .ok (targets, ' ' :: '{' :: body) := by
  obtain ⟨first, others, rfl⟩ := List.exists_cons_of_ne_nil nonempty
  have othersRead := read_furtherSelectors
    (fun target member => printable target (List.mem_cons_of_mem _ member)) body
  have ends : EndsName (others.flatMap (fun target => " || ".toList ++ target.written) ++
      ' ' :: '{' :: body) := by
    cases others <;> exact endsName_space _
  have firstRead := read_selector isGap_space (printable first List.mem_cons_self) ends
  have form : ' ' :: (" || ".toList.intercalate ((first :: others).map Selector.written) ++
      ' ' :: '{' :: body) = [' '] ++ (first.written ++
        (others.flatMap (fun target => " || ".toList ++ target.written) ++
          ' ' :: '{' :: body)) := by
    rw [List.map_cons, intercalate_cons, List.flatMap_map, List.append_assoc]
    rfl
  rw [form, selectors, read_bind (read_commit firstRead), read_map othersRead]

/-- No details are read where the word of a clause stands. -/
theorem declines_details (blank : IsGap gap) (word : String)
    (isName : isIdentifier word = true) (differs : word ≠ "meta") (later : List Char) :
    details.Declines (gap ++ (word.toList ++ ':' :: later)) :=
  declines_bind_next (read_layout blank (isSolid_of_isIdentifier isName _))
    ((declines_keyword_of_name differs isName (endsName_colon later)).bind _)

/-! ### Clauses -/

variable [RegexEngine]

section Clauses

variable {depth : Nat} {gap following : List Char}

/-- A clause is read from its word, a colon, a space and a rendering of its expression. -/
theorem read_clause (blank : IsGap gap) (word : String)
    (isName : isIdentifier word = true) {rendering : Rendering}
    (grouped : rendering.isGrouped = true) (rows : rendering.longestRow ≤ signLimit)
    (normal : rendering.expr.isNormal = true) (fits : rendering.nesting ≤ depth)
    (follows : Follows 0 following) :
    (clause depth word).read
        (gap ++ (word.toList ++ ':' :: ' ' :: (rendering.text ++ following))) =
      .ok (rendering.expr, following) := by
  have colonSolid : IsSolid (':' :: ' ' :: (rendering.text ++ following)) := isSolid_cons rfl _
  have colon : (sign ':').read (':' :: ' ' :: (rendering.text ++ following)) =
      .ok ((), ' ' :: (rendering.text ++ following)) := read_sign (read_layout_solid colonSolid)
  have exprRead := read_expression grouped rows normal fits isGap_space follows
  rw [clause, read_bind (read_layout blank (isSolid_of_isIdentifier isName _)),
    read_bind (read_keyword isName (endsName_colon _))]
  refine read_commit ?_
  rw [read_bind colon]
  exact exprRead

/-- No clause is read where another word stands. -/
theorem declines_clause (blank : IsGap gap) (word : String) {other : String}
    (isName : isIdentifier word = true) (differs : word ≠ other) (later : List Char) :
    (clause depth other).Declines (gap ++ (word.toList ++ ':' :: later)) :=
  declines_bind_next (read_layout blank (isSolid_of_isIdentifier isName _))
    ((declines_keyword_of_name differs isName (endsName_colon later)).bind _)

end Clauses

/-! ### Whole rules -/

/-- A rule is read from its head and its report, if its other parts are read in between. -/
theorem read_rule {depth : Nat} {name report : String} {targets : List Selector}
    {known : Option (NameTable String)} {guard : Option Expr} {ensure : Expr}
    {head body behindDetails behindGuard gap lastGap rest : List Char}
    (selectorsRead : selectors.read (' ' :: (head ++ ' ' :: '{' :: body)) =
      .ok (targets, ' ' :: '{' :: body))
    (detailsRead : (optional details).read body = .ok (known, behindDetails))
    (guardRead : (optional (clause depth "when")).read behindDetails = .ok (guard, behindGuard))
    (ensureRead : (clause depth "ensure").read behindGuard = .ok (ensure, gap ++
      ("report".toList ++ ':' :: ' ' :: (Quoted.written report.toList ++
        (lastGap ++ '}' :: rest)))))
    (blank : IsGap gap)
    (lastBlank : IsGap lastGap) :
    (rule depth).read ("rule".toList ++ ' ' :: (Quoted.written name.toList ++
        ' ' :: ("on".toList ++ ' ' :: (head ++ ' ' :: '{' :: body)))) =
      .ok ({ name, selectors := targets, details := known.getD .empty, guard, ensure, report },
        rest) := by
  have spaceName : (layout >>= fun _ => quoted).read (' ' :: (Quoted.written name.toList ++
      ' ' :: ("on".toList ++ ' ' :: (head ++ ' ' :: '{' :: body)))) =
      .ok (name, ' ' :: ("on".toList ++ ' ' :: (head ++ ' ' :: '{' :: body))) := by
    rw [read_bind (read_layout_space (isSolid_quoted _ _)), read_quoted]
  have onWord : (layout >>= fun _ => keyword "on").read
      (' ' :: ("on".toList ++ ' ' :: (head ++ ' ' :: '{' :: body))) =
      .ok ((), ' ' :: (head ++ ' ' :: '{' :: body)) := by
    rw [read_bind (read_layout_space (isSolid_of_isIdentifier (by decide) _)),
      read_keyword (by decide) (endsName_space _)]
  have opened : (sign '{').read (' ' :: '{' :: body) = .ok ((), body) :=
    read_sign (read_layout_space (isSolid_cons rfl body))
  have colonSolid : ∀ later, IsSolid (':' :: later) := isSolid_cons rfl
  have reported : (do layout; keyword "report"; sign ':'; layout; quoted : Reader String).read
      (gap ++ ("report".toList ++ ':' :: ' ' :: (Quoted.written report.toList ++
        (lastGap ++ '}' :: rest)))) = .ok (report, lastGap ++ '}' :: rest) := by
    rw [read_bind (read_layout blank (isSolid_of_isIdentifier (by decide) _)),
      read_bind (read_keyword (by decide) (endsName_colon _)),
      read_bind (read_sign (read_layout_solid (colonSolid _))),
      read_bind (read_layout_space (isSolid_quoted _ _)), read_quoted]
  have closed : (sign '}').read (lastGap ++ '}' :: rest) = .ok ((), rest) :=
    read_sign (read_layout lastBlank (isSolid_cons rfl rest))
  rw [rule, read_bind (read_layout_solid (isSolid_of_isIdentifier (by decide) _)),
    read_bind (read_keyword (by decide) (endsName_space _)),
    read_bind (read_remarking (read_commit spaceName) _), read_bind (read_commit onWord),
    read_bind selectorsRead, read_bind (read_remarking (read_commit opened) _),
    read_bind detailsRead, read_bind guardRead,
    read_bind (read_remarking (read_commit ensureRead) _),
    read_bind (read_remarking (read_commit reported) _),
    read_map (read_remarking (read_commit closed) _)]

end Grammar

end WidgetAudit
