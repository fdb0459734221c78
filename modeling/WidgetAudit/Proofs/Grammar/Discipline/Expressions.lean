import WidgetAudit.Proofs.Grammar.Discipline.Lexemes
import WidgetAudit.Grammar.Expression

/-!
# How the readers of expressions behave

Every level of the grammar leaves as many parentheses open as there were, if the reader of
what stands between parentheses does so with one more. Of that reader nothing else is used, so
the only induction is the one on the number of parentheses that may still be opened.

One operator needs care. The scan takes two slashes for a comment, but a division may be
followed by anything as far as its own reader goes. Both agree because no operand begins with
a slash.
-/

namespace WidgetAudit.Grammar

open Reader
open Source (Passage overflow?)

/-! ### Operators -/

/-- Every sign of an operator is a small part, apart from the slash. -/
theorem lexical_signOf {operator : BinaryOperator} (noDivision : operator ≠ .divide) :
    (signOf operator).Lexical := by
  have inert : operator.sign.toList.all isInert = true := by
    cases operator <;> first
      | exact absurd rfl noDivision
      | decide
  exact (lexical_text inert).bind fun _ => .pure operator

/-- Every word of an operator is a small part. -/
theorem lexical_wordOf (operator : BinaryOperator) : (wordOf operator).Lexical :=
  (lexical_keyword _).bind fun _ => .pure operator

/-- The operators of equality are small parts. -/
theorem lexical_equalitySign : equalitySign.Lexical :=
  (lexical_signOf (by decide)).orElse <| (lexical_signOf (by decide)).orElse <|
    (lexical_signOf (by decide)).orElse <| (lexical_wordOf _).orElse (lexical_wordOf _)

/-- The operators of order are small parts. -/
theorem lexical_orderSign : orderSign.Lexical :=
  (lexical_signOf (by decide)).orElse <| (lexical_signOf (by decide)).orElse <|
    (lexical_signOf (by decide)).orElse (lexical_signOf (by decide))

/-- The operators of sums are small parts. -/
theorem lexical_sumSign : sumSign.Lexical :=
  (lexical_signOf (by decide)).orElse (lexical_signOf (by decide))

/-- The signs in front of an operand are small parts. -/
theorem lexical_unarySign : unarySign.Lexical :=
  ((lexical_char (by decide)).bind fun _ => .pure _).orElse
    ((lexical_char (by decide)).bind fun _ => .pure _)

/-! ### The sign of a product -/

/-- The sign of a product stands in front of what it leaves. -/
theorem productSign_accepts {input rest : List Char} {operator : BinaryOperator}
    (accepted : productSign.read input = .ok (operator, rest)) :
    operator = .multiply ∧ input = '*' :: rest ∨ operator = .divide ∧ input = '/' :: rest := by
  rcases orElse_accepts accepted with star | ⟨_, slash⟩
  · obtain ⟨_, middle, signRead, given⟩ := bind_accepts star
    cases given
    exact .inl ⟨rfl, text_accepts signRead⟩
  · obtain ⟨_, middle, signRead, given⟩ := bind_accepts slash
    cases given
    exact .inr ⟨rfl, text_accepts signRead⟩

/-- The sign of a product is read whatever stands behind it. -/
theorem read_productSign_append {input rest : List Char} {operator : BinaryOperator}
    (accepted : productSign.read input = .ok (operator, rest)) (extra : List Char) :
    productSign.read (input ++ extra) = .ok (operator, rest ++ extra) := by
  rcases productSign_accepts accepted with ⟨rfl, rfl⟩ | ⟨rfl, rfl⟩ <;> rfl

/-- Where no sign of a product stands, none is asked for. -/
theorem productSign_refuses {input : List Char} {refusal : Refusal}
    (refused : productSign.read input = .error refusal) : refusal.severity = .tentative := by
  rcases orElse_refuses refused with own | own <;>
    rcases bind_refuses own with atText | ⟨_, _, _, given⟩
  · exact text_refuses atText
  · cases given
  · exact text_refuses atText
  · cases given

/-- Where none stands, none stands when text is added behind a brace. -/
theorem wary_productSign : productSign.Wary :=
  ((wary_text (by decide)).bind fun _ => resolute_pure _).orElse
    ((wary_text (by decide)).bind fun _ => resolute_pure _)

/-- A slash in front of what is no comment does not make it one. -/
theorem declines_layoutPiece_slash {later : List Char}
    (declines : layoutPiece.Declines ('/' :: '/' :: later)) :
    layoutPiece.Declines ('/' :: later) := by
  cases reply : layoutPiece.read ('/' :: later) with
  | error refusal => exact ⟨refusal, reply, layoutPiece_refuses reply⟩
  | ok found =>
    obtain ⟨piece, form, isPiece⟩ := layoutPiece_accepts reply
    obtain ⟨refusal, refused, _⟩ := declines
    cases isPiece with
    | blanks nonempty blank _ =>
      obtain ⟨first, others, rfl⟩ := List.exists_cons_of_ne_nil nonempty
      obtain rfl : '/' = first := (List.cons.inj form).1
      simp [IsGap, Text.isBlank] at blank
    | @slashes line _ isLine ends =>
      obtain rfl : later = '/' :: (line ++ found.2) := (List.cons.inj form).2
      have longer : IsLine ('/' :: line) := by
        intro char member
        rcases List.mem_cons.mp member with rfl | inLine
        · decide
        · exact isLine char inLine
      cases (read_layoutPiece (.slashes longer ends)).symm.trans refused
    | hash _ _ => cases (List.cons.inj form).1

/-- Where no layout stands, a reading passes over the sign of a product, unless it is a slash
that another one follows. -/
theorem productSign_passes {input rest : List Char} {operator : BinaryOperator}
    (declines : layoutPiece.Declines input)
    (accepted : productSign.read input = .ok (operator, rest)) :
    (∀ depth, Passage depth input [] depth rest) ∨
      ∃ later, rest = '/' :: later ∧ layoutPiece.Declines rest := by
  rcases productSign_accepts accepted with ⟨_, rfl⟩ | ⟨_, rfl⟩
  · have inert : ['*'].all isInert = true := by decide
    exact .inl fun depth => passage_inert (List.all_eq_true.mp inert) depth rest
  · by_cases doubled : ∃ later, rest = '/' :: later
    · obtain ⟨later, rfl⟩ := doubled
      exact .inr ⟨later, rfl, declines_layoutPiece_slash declines⟩
    · refine .inl fun depth => .solid ?_ (by decide) rfl (.stay depth rest)
      rintro _ _ ⟨⟩
      exact ⟨rfl, by decide, fun _ tail same => doubled ⟨tail, same⟩⟩

/-! ### Words behind a name -/

/-- The name of a type is a small part. -/
theorem lexical_castTarget : castTarget.Lexical :=
  ((lexical_keyword _).bind fun _ => .pure _).orElse <|
    ((lexical_keyword _).bind fun _ => .pure _).orElse
      ((lexical_keyword _).bind fun _ => .pure _)

/-- What may follow the key of a property is a small part. -/
theorem lexical_propertySuffix : propertySuffix.Lexical :=
  ((lexical_sign (by decide)).bind fun _ => (lexical_keyword _).commit.bind fun _ =>
    .pure _).orElse <|
  lexical_layout.bind fun _ => (lexical_keyword _).bind fun _ =>
    (lexical_layout.bind fun _ => lexical_castTarget).commit.bind fun _ => .pure _

/-- The word for what is asked of related nodes is a small part. -/
theorem lexical_relationQuestion : relationQuestion.Lexical :=
  ((lexical_keyword _).bind fun _ => .pure _).orElse <|
    ((lexical_keyword _).bind fun _ => .pure _).orElse <|
      ((lexical_keyword _).bind fun _ => .pure _).orElse
        ((lexical_keyword _).bind fun _ => .pure _)

/-! ### Levels -/

section Levels

variable [RegexEngine]

variable {inner operand : Reader Expr} {operator : Reader BinaryOperator} {limit depth : Nat}

/-- A further operand is declined only where its operator is. -/
theorem wary_chainStep (operand : Reader Expr) (wary : operator.Wary) :
    (chainStep operand operator).Wary :=
  lexical_layout.wary_bind fun _ => wary.bind fun _ =>
    (resolute_commit operand).bind fun _ => resolute_pure _

/-- An operator and its right operand leave the parentheses to the operand. -/
theorem orderly_chainStep (orderly : operand.Orderly limit depth fun _ => depth)
    (lexical : operator.Lexical) :
    (chainStep operand operator).Orderly limit depth fun _ => depth :=
  (lexical_layout.orderly limit depth).bind fun _ => (lexical.orderly limit depth).bind fun _ =>
    orderly.commit.bind fun _ => .pure _

/-- What is read as a sign and a factor is passed by the sign, if no factor begins with a
slash. -/
theorem factor_accepts
    (noSlash : ∀ later, layoutPiece.Declines ('/' :: later) → operand.Declines ('/' :: later))
    {input rest : List Char} {factor : BinaryOperator × Expr}
    (accepted : (chainStep operand productSign).read input = .ok (factor, rest)) :
    ∃ place behind, layout.read input = .ok ((), place) ∧
      productSign.read place = .ok (factor.1, behind) ∧
      operand.read behind = .ok (factor.2, rest) ∧
      ∀ depth, Passage depth place [] depth behind := by
  obtain ⟨_, place, layoutRead, stepRead⟩ := bind_accepts accepted
  obtain ⟨joint, behind, signRead, nextRead⟩ := bind_accepts stepRead
  obtain ⟨next, last, operandRead, given⟩ := bind_accepts nextRead
  cases given
  have found := commit_accepts operandRead
  refine ⟨place, behind, layoutRead, signRead, found, ?_⟩
  rcases productSign_passes (layout_accepts layoutRead).2 signRead with
    passage | ⟨later, rfl, declines⟩
  · exact passage
  · obtain ⟨refusal, refused, _⟩ := noSlash later declines
    cases found.symm.trans refused

/-- A factor and the sign in front of it are read in order, if no factor begins with a
slash. -/
theorem orderly_factor (orderly : operand.Orderly limit depth fun _ => depth)
    (noSlash : ∀ later, layoutPiece.Declines ('/' :: later) → operand.Declines ('/' :: later)) :
    (chainStep operand productSign).Orderly limit depth fun _ => depth where
  passes accepted := by
    obtain ⟨place, behind, layoutRead, _, found, passage⟩ := factor_accepts noSlash accepted
    obtain ⟨skipped, ahead⟩ := (lexical_layout.orderly limit depth).passes layoutRead
    obtain ⟨passed, onward⟩ := orderly.passes found
    exact ⟨_, ahead.append ((passage depth).append onward)⟩
  stable accepted ahead extra := by
    obtain ⟨place, behind, layoutRead, signRead, found, passage⟩ :=
      factor_accepts noSlash accepted
    obtain ⟨passed, onward⟩ := orderly.passes found
    have aheadOfSign : BraceAhead place := (ahead.before onward).before (passage depth)
    have layoutReadMore := (lexical_layout.orderly limit depth).stable layoutRead aheadOfSign extra
    rw [chainStep, read_bind layoutReadMore, read_bind (read_productSign_append signRead extra),
      read_map (read_commit (orderly.stable found ahead extra))]
  shallow within passes refusal refused := by
    rcases bind_refuses refused with atLayout | ⟨_, place, layoutRead, atStep⟩
    · exact (lexical_layout.orderly limit depth).shallow within passes refusal atLayout
    · obtain ⟨skipped, ahead⟩ := (lexical_layout.orderly limit depth).passes layoutRead
      obtain ⟨placeWithin, placePasses⟩ := ahead.overflow?_rest within passes
      rcases bind_refuses atStep with atSign | ⟨joint, behind, signRead, atNext⟩
      · simp [productSign_refuses atSign]
      · rcases bind_refuses atNext with atOperand | ⟨_, _, _, given⟩
        · rcases productSign_passes (layout_accepts layoutRead).2 signRead with
            passage | ⟨later, rfl, declines⟩
          · obtain ⟨_, behindPasses⟩ := (passage depth).overflow?_rest placeWithin placePasses
            exact orderly.commit.shallow placeWithin behindPasses refusal atOperand
          · obtain ⟨own, ownRefused, severity⟩ := onRefusal_refuses atOperand
            obtain ⟨other, otherRefused, tentative⟩ := noSlash later declines
            cases ownRefused.symm.trans otherRefused
            simp [severity, tentative]
        · cases given

/-- A level is orderly if its operands and its further steps are. -/
theorem orderly_chain (orderly : operand.Orderly limit depth fun _ => depth)
    (stepOrderly : (chainStep operand operator).Orderly limit depth fun _ => depth)
    (wary : operator.Wary) (consumes : operator.Consumes) :
    (chain operand operator consumes).Orderly limit depth fun _ => depth :=
  orderly.bind fun _ => (stepOrderly.many (wary_chainStep operand wary) _).bind fun _ => .pure _

/-! ### Operands -/

/-- Behind its opening parenthesis a property closes it. -/
theorem orderly_propertyRest : propertyRest.Orderly limit (depth + 1) fun _ => depth := by
  have key : (do layout; let name ← quoted; sign ')'; return name : Reader String).Orderly
      limit (depth + 1) fun _ => depth :=
    (lexical_layout.orderly limit _).bind fun _ => (lexical_quoted.orderly limit _).bind fun _ =>
      (orderly_sign passage_closing).bind fun _ => .pure _
  exact (key.remarking _).bind fun _ =>
    (lexical_propertySuffix.optional.orderly limit depth).bind fun _ => .pure _

variable (orderly : inner.Orderly limit (depth + 1) fun _ => depth + 1)

include orderly

/-- A question opens a parenthesis for its condition and closes it. -/
theorem orderly_relationRest (relation : Relation) :
    (relationRest inner relation).Orderly limit depth fun _ => depth := by
  refine (lexical_layout.orderly limit depth).bind fun _ =>
    (lexical_relationQuestion.orderly limit depth).bind fun question => ?_
  cases question with
  | none => exact .pure _
  | some quantifier =>
    exact (orderly_sign passage_opening).bind fun _ => orderly.bind fun _ =>
      (orderly_sign passage_closing).bind fun _ => .pure _

/-- A name opens no parenthesis, and a relation closes the one of its condition. -/
theorem orderly_relationOrName (name : String) :
    (relationOrName inner name).Orderly limit depth fun _ => depth := by
  unfold relationOrName
  split
  · exact .pure _
  · rename_i relation _
    have point : (sign '.').Lexical := lexical_sign (by decide)
    refine (point.optional.orderly limit depth).bind fun choice => ?_
    cases choice with
    | none => exact .pure _
    | some _ => exact (orderly_relationRest orderly relation).commit

/-- What begins with a word closes the parentheses that it opens. -/
theorem orderly_named : (named inner).Orderly limit depth fun _ => depth := by
  refine (lexical_identifier.orderly limit depth).bind fun name => ?_
  split
  · exact .pure _
  split
  · exact .pure _
  split
  · refine (Orderly.optional (orderly_sign passage_opening) (wary_sign '(')).bind fun choice => ?_
    cases choice with
    | none => exact orderly_relationOrName orderly name
    | some _ => exact orderly_propertyRest.commit
  · exact orderly_relationOrName orderly name

/-- Parentheses are closed behind the expression between them. -/
theorem orderly_parenthesized : (parenthesized inner).Orderly limit depth fun _ => depth :=
  (orderly_char passage_opening limit).bind fun _ => orderly.commit.bind fun _ =>
    (orderly_sign passage_closing).commit.bind fun _ => .pure _

omit orderly in
/-- Behind an opening parenthesis nothing is declined. -/
theorem wary_parenthesized (inner : Reader Expr) : (parenthesized inner).Wary :=
  (wary_charWhere _).bind fun _ => (resolute_commit inner).bind fun _ =>
    (resolute_commit _).bind fun _ => resolute_pure _

/-- An operand closes the parentheses that it opens. -/
theorem orderly_primary : (primary inner).Orderly limit depth fun _ => depth := by
  have text := lexical_quoted.bind fun content => Lexical.pure (Expr.literal (.string content))
  have value := lexical_number.bind fun value => Lexical.pure (Expr.literal value)
  refine (lexical_layout.orderly limit depth).bind fun _ => Orderly.remarking ?_ _
  exact (orderly_parenthesized orderly).orElse (wary_parenthesized inner) <|
    (text.orderly limit depth).orElse text.wary <|
      (value.orderly limit depth).orElse value.wary (orderly_named orderly)

/-- Signs in front open nothing. -/
theorem orderly_signed : (signed inner).Orderly limit depth fun _ => depth := by
  have signs := (lexical_layout.bind fun _ => lexical_unarySign).manyUpTo signLimit
  refine (signs.orderly limit depth).bind fun row => ?_
  dsimp only
  split
  · exact (orderly_primary orderly).bind fun _ => .pure _
  · exact ((orderly_primary orderly).commit.remarking _).bind fun _ => .pure _

omit orderly in
/-- No operand begins with a slash that does not begin a comment. -/
theorem declines_signed_slash (inner : Reader Expr) {later : List Char}
    (declines : layoutPiece.Declines ('/' :: later)) : (signed inner).Declines ('/' :: later) := by
  have skipped : layout.read ('/' :: later) = .ok ((), '/' :: later) :=
    read_map (declines.read_many consumes_layoutPiece) fun _ => ()
  have noSign : (do layout; unarySign : Reader UnaryOperator).Declines ('/' :: later) :=
    declines_bind_next skipped <|
      ((declines_char (avoids_cons rfl later)).bind _).orElse
        ((declines_char (avoids_cons rfl later)).bind _)
  have noPrimary : (primary inner).Declines ('/' :: later) := by
    refine declines_bind_next skipped (Declines.remarking ?_ _)
    exact ((declines_char (avoids_cons rfl later)).bind _).orElse <|
      ((declines_quoted (avoids_cons rfl later)).bind _).orElse <|
        ((declines_number (avoids_cons rfl later)).bind _).orElse
          ((declines_identifier (avoids_cons rfl later)).bind _)
  exact declines_bind_next (noSign.read_manyUpTo signLimit) (noPrimary.bind _)

/-! ### The row of levels -/

/-- The level with the division, whose sign the scan could take for a comment. -/
theorem orderly_product : (product inner).Orderly limit depth fun _ => depth := by
  have factor := orderly_signed orderly
  exact orderly_chain factor (orderly_factor factor fun _ => declines_signed_slash inner)
    wary_productSign _

/-- A sum of products closes the parentheses that it opens. -/
theorem orderly_sum : (sum inner).Orderly limit depth fun _ => depth := by
  have product := orderly_product orderly
  exact orderly_chain product (orderly_chainStep product lexical_sumSign) lexical_sumSign.wary _

/-- A comparison of sums closes the parentheses that it opens. -/
theorem orderly_comparison : (comparison inner).Orderly limit depth fun _ => depth := by
  have sum := orderly_sum orderly
  exact orderly_chain sum (orderly_chainStep sum lexical_orderSign) lexical_orderSign.wary _

/-- A further operand of an equality closes the parentheses that it opens, also if it is a pattern.
-/
theorem orderly_equalityStep : (equalityStep inner).Orderly limit depth fun _ => depth := by
  refine (lexical_layout.orderly limit depth).bind fun _ =>
    (lexical_equalitySign.orderly limit depth).bind fun operator => ?_
  split
  · exact (((lexical_layout.orderly limit depth).bind fun _ =>
      (orderly_comparison orderly).checked matchOperand).commit).remarking _
  · exact (orderly_comparison orderly).commit.bind fun _ => .pure _

omit orderly in
/-- A further operand of an equality is declined only where its operator is. -/
theorem wary_equalityStep (inner : Reader Expr) : (equalityStep inner).Wary := by
  refine lexical_layout.wary_bind fun _ => lexical_equalitySign.wary.bind fun operator => ?_
  split
  · exact (resolute_commit _).remarking _
  · exact (resolute_commit _).bind fun _ => resolute_pure _

/-- An equality of comparisons closes the parentheses that it opens. -/
theorem orderly_equality : (equality inner).Orderly limit depth fun _ => depth :=
  (orderly_comparison orderly).bind fun _ =>
    ((orderly_equalityStep orderly).many (wary_equalityStep inner) _).bind fun _ => .pure _

/-- A conjunction of equalities closes the parentheses that it opens. -/
theorem orderly_conjunction : (conjunction inner).Orderly limit depth fun _ => depth := by
  have equality := orderly_equality orderly
  have sign : conjunctionSign.Lexical := lexical_signOf (by decide)
  exact orderly_chain equality (orderly_chainStep equality sign) sign.wary _

/-- A disjunction of conjunctions, which is a whole expression, closes the parentheses that it
opens. -/
theorem orderly_disjunction : (disjunction inner).Orderly limit depth fun _ => depth := by
  have conjunction := orderly_conjunction orderly
  have sign : disjunctionSign.Lexical := lexical_signOf (by decide)
  exact orderly_chain conjunction (orderly_chainStep conjunction sign) sign.wary _

end Levels

variable [RegexEngine]

/-- An expression in which the parentheses up to the limit may still be opened.

Induct on their number. Where no more may be opened, the limit is reached already, and so a
text with another parenthesis does not pass the scan. -/
theorem orderly_expression {limit depth allowance : Nat} (enough : limit ≤ depth + allowance) :
    (expression allowance).Orderly limit depth fun _ => depth := by
  induction allowance generalizing depth with
  | zero =>
    refine orderly_disjunction ⟨?_, ?_, ?_⟩
    · intro input value rest accepted
      cases accepted
    · intro input value rest accepted
      cases accepted
    · intro input within
      omega
  | succ allowance inductionHypothesis =>
    exact orderly_disjunction (inductionHypothesis (by omega))

end WidgetAudit.Grammar
