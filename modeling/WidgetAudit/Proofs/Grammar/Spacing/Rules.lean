import WidgetAudit.Proofs.Grammar.Spacing

/-!
# Layout between two tokens of a rule

Every reader of the grammar makes the same of a text and of the text with layout between two of its
tokens, in the sense of `Carries`. For most of them that follows from the laws of the combinators
alone, since they look for layout in front of every token. Two readers need a word of their own. A
point may be the token on the left of the boundary, and what reads on behind it has to be told so.
And a sign in front of an operand may be the first half of a longer sign; then no operand follows,
wherever the boundary is.
-/

namespace WidgetAudit.Grammar

open Reader

variable {α : Type} {boundary : Boundary}

/-! ### Tokens and layout -/

/-- Layout leads from between two tokens to the front of a token. -/
theorem carries_layout : boundary.Carries boundary.Loose layout fun _ => boundary.Near where
  accepts related accepted := by
    obtain ⟨tightRest, wideRest, tightRead, wideRead, near⟩ := related.layout_near
    cases accepted.symm.trans tightRead
    exact .inl ⟨wideRest, wideRead, near⟩
  declines related declined := by
    obtain ⟨tightRest, _, tightRead, _⟩ := related.layout_near
    obtain ⟨_, refused, _⟩ := declined
    cases refused.symm.trans tightRead

/-- In front of a token it is enough to know what a reader makes of the token. -/
theorem carries_of_token {reader : Reader α} {finish : α → List Char → List Char → Prop}
    (past : ¬ boundary.Torn → ∀ value text, finish value text text)
    (onToken : ∀ {token ends tight wide}, IsToken token ends → ends tight → ends wide →
      (token ≠ ['.'] → boundary.Loose tight wide) →
      (token = ['.'] → boundary.BehindPoint tight wide) →
        (∃ value tightRest wideRest, reader.read (token ++ tight) = .ok (value, tightRest) ∧
          reader.read (token ++ wide) = .ok (value, wideRest) ∧ finish value tightRest wideRest) ∨
        reader.Declines (token ++ tight) ∧ reader.Declines (token ++ wide)) :
    boundary.Carries boundary.Near reader finish where
  accepts related accepted := by
    cases related with
    | past whole => exact .inl ⟨_, accepted, past whole _ _⟩
    | token isToken ended endedWide _ loose point =>
      obtain ⟨_, _, wideRest, tightRead, wideRead, behind⟩ | ⟨⟨_, refused, _⟩, _⟩ :=
        onToken isToken ended endedWide loose point
      · cases accepted.symm.trans tightRead
        exact .inl ⟨wideRest, wideRead, behind⟩
      · cases accepted.symm.trans refused
  declines related declined := by
    cases related with
    | past => exact .inl declined
    | token isToken ended endedWide _ loose point =>
      obtain ⟨_, _, _, tightRead, _⟩ | ⟨_, declines⟩ :=
        onToken isToken ended endedWide loose point
      · obtain ⟨_, refused, _⟩ := declined
        cases refused.symm.trans tightRead
      · exact .inl declines

/-- What takes tokens takes the same token of both texts. -/
theorem Reader.Tokenwise.carries {reader : Reader α} (tokenwise : reader.Tokenwise) :
    boundary.Carries boundary.Near reader fun _ => boundary.Loose := by
  refine carries_of_token (fun whole _ => .past whole) ?_
  intro token ends tight wide isToken ended endedWide loose _
  obtain ⟨value, noPoint, accepts⟩ | declines := tokenwise isToken
  · exact .inl ⟨value, tight, wide, accepts _ ended, accepts _ endedWide, loose noPoint⟩
  · exact .inr ⟨declines _ ended, declines _ endedWide⟩

/-- A keyword is a token. -/
theorem spaced_keyword (word : String) :
    boundary.Carries boundary.Near (keyword word) fun _ => boundary.Loose :=
  (tokenwise_keyword word).carries

/-- Layout and a sign that begins no pair. -/
theorem spaced_sign {wanted : Char} (sign : isSign wanted = true)
    (lone : (signPairs.all fun pair => pair.1 != wanted) = true) (noPoint : wanted ≠ '.') :
    boundary.Spaced (Grammar.sign wanted) :=
  carries_layout.bind fun _ => ((tokenwise_char sign lone noPoint).map fun _ => ()).carries

/-- Layout and a quoted text make the same of both texts. -/
theorem spaced_quoted : boundary.Spaced (do layout; quoted) :=
  carries_layout.bind fun _ => tokenwise_quoted.carries

/-! ### Points -/

/-- Behind a point the layout may be next, even if the boundary is torn. -/
theorem carries_point :
    boundary.Carries boundary.Loose (sign '.') fun _ => boundary.BehindPoint := by
  refine carries_layout.bind fun _ => carries_of_token (fun whole _ => .past whole) ?_
  intro token ends tight wide isToken _ _ _ point
  obtain another | rfl := isToken.lone_cases (show isSign '.' = true by decide) (by decide)
  · exact .inr ⟨(declines_char (another tight)).bind _, (declines_char (another wide)).bind _⟩
  · exact .inl ⟨(), tight, wide, read_map (read_char '.' tight) _, read_map (read_char '.' wide) _,
      point rfl⟩

/-- A boundary that is not torn is like any other behind a point. -/
theorem Boundary.BehindPoint.loose {tight wide : List Char}
    (behind : boundary.BehindPoint tight wide) (whole : ¬ boundary.Torn) :
    boundary.Loose tight wide := by
  cases behind with
  | past _ => exact .past whole _
  | front _ => exact .front whole
  | ahead ahead => exact .ahead ahead

/-- A name in front of a text decides what keyword is read there. -/
theorem declines_keyword_of_read {name word : String} {input rest : List Char}
    (read : identifier.read input = .ok (name, rest)) (differs : name ≠ word) :
    (keyword word).Declines input := by
  have fails : (name == word) = false := beq_eq_false_iff_ne.mpr differs
  exact ((declines_filtered read fails).bind _).remarking _

/-- A keyword that has been read is the name in front of the text. -/
theorem keyword_accepts {word : String} {input rest : List Char}
    (accepted : (keyword word).read input = .ok ((), rest)) :
    identifier.read input = .ok (word, rest) := by
  obtain ⟨name, middle, found, given⟩ := bind_accepts (remarking_accepts accepted)
  cases given
  obtain ⟨other, read, passes⟩ := checked_accepts found
  split at passes
  · rename_i same
    cases passes
    rwa [beq_iff_eq.mp same] at read
  · cases passes

/-- The word `is_resolved` is read behind a point only if it follows at once. Where layout is put
between the two, it is refused for good. -/
theorem spaced_isResolved :
    boundary.Carries boundary.BehindPoint (commit (keyword "is_resolved"))
      fun _ => boundary.Loose where
  accepts {tight wide _ rest} related accepted := by
    have read := keyword_accepts (commit_accepts accepted)
    obtain ⟨first, later, form, start⟩ :
        ∃ first later, tight = first :: later ∧ isNameStart first = true := by
      obtain ⟨first, middle, firstRead, _⟩ := bind_accepts read
      obtain ⟨form, start⟩ := charWhere_accepts firstRead
      exact ⟨first, middle, form, start⟩
    cases related with
    | past whole => exact .inl ⟨_, accepted, .past whole _⟩
    | front point =>
      have solid : IsSolid boundary.behind := form ▸ isSolid_of_isNameStart start later
      have torn : boundary.Torn :=
        ⟨point, rest, (read_bind (read_layout_solid solid) _).trans (commit_accepts accepted)⟩
      obtain ⟨char, others, begins, blank⟩ := boundary.isSpacing.begins
      have nameless : Avoids isNameStart (boundary.gap ++ boundary.behind) := by
        rw [begins]
        refine avoids_cons ?_ _
        rw [Bool.eq_false_iff]
        intro start
        exact absurd (isNamePart_of_isNameStart start) (by simp [isNamePart_of_isBlank blank])
      have declines : (keyword "is_resolved").Declines (boundary.gap ++ boundary.behind) :=
        declines_keyword nameless
      obtain ⟨refusal, refused, tentative⟩ := declines
      refine .inr ⟨torn, ⟨.final, refusal.rest, refusal.remarks, refusal.fault⟩, ?_, by simp⟩
      simp only [commit, onRefusal, refused, tentative, if_true, id]
    | ahead ahead =>
      have near := ahead.near form (isSolid_of_isNameStart start)
      exact (spaced_keyword "is_resolved").commit.accepts near accepted
  declines _ declined := (commit_declines declined).elim

/-! ### Words behind a name -/

/-- What is asked of related nodes is a token, whichever word it is. -/
theorem spaced_relationQuestion :
    boundary.Carries boundary.Near relationQuestion fun _ => boundary.Loose :=
  ((spaced_keyword "length").bind fun _ => .pure _).orElse <|
    ((spaced_keyword "any").bind fun _ => .pure _).orElse <|
    ((spaced_keyword "all").bind fun _ => .pure _).orElse
      ((spaced_keyword "none").bind fun _ => .pure _)

/-- The name of a type is a token. -/
theorem spaced_castTarget :
    boundary.Carries boundary.Near castTarget fun _ => boundary.Loose :=
  ((spaced_keyword "int").bind fun _ => .pure _).orElse <|
    ((spaced_keyword "string").bind fun _ => .pure _).orElse
      ((spaced_keyword "bool").bind fun _ => .pure _)

/-- What follows a property makes the same of both texts, unless the boundary is torn behind the
point. -/
theorem spaced_propertySuffix : boundary.Spaced propertySuffix :=
  (carries_point.bind fun _ => spaced_isResolved.bind fun _ => .pure _).orElse <|
    carries_layout.bind fun _ => (spaced_keyword "as").bind fun _ =>
      ((carries_layout.bind fun _ => spaced_castTarget).commit).bind fun _ => .pure _

/-! ### Signs in front -/

/-- Two texts behind a sign in front of an operand. The sign may have been the first half of a
longer one. -/
inductive Boundary.BehindSign (boundary : Boundary) : (tight wide : List Char) → Prop
  | loose {tight wide : List Char} (loose : boundary.Loose tight wide) :
      BehindSign boundary tight wide
  | equals (tight wide : List Char) : BehindSign boundary ('=' :: tight) ('=' :: wide)

/-- An exclamation mark is read alone even if an equality sign stands behind it. -/
theorem carries_unarySign :
    boundary.Carries boundary.Near unarySign fun _ => boundary.BehindSign := by
  have minus : (do let _ ← char '-'; return .negate : Reader UnaryOperator).Tokenwise :=
    (tokenwise_char (by decide) (by decide) (by decide)).map fun _ => _
  refine .orElse (carries_of_token (fun whole _ text => .loose (.past whole text)) ?_)
    (minus.carries.mono id .loose)
  intro token ends tight wide isToken ended endedWide loose _
  have read (input : List Char) :
      (do let _ ← char '!'; return .not : Reader UnaryOperator).read ('!' :: input) =
        .ok (.not, input) := read_map (read_char '!' input) _
  obtain another | ⟨second, listed, rfl⟩ | ⟨rfl, _⟩ :=
    isToken.sign_cases (show isSign '!' = true by decide)
  · exact .inr ⟨(declines_char (another tight)).bind _, (declines_char (another wide)).bind _⟩
  · obtain rfl : second = '=' := by simpa [signPairs] using listed
    exact .inl ⟨.not, _, _, read _, read _, .equals tight wide⟩
  · exact .inl ⟨.not, tight, wide, read tight, read wide, .loose (loose (by decide))⟩

/-- No sign in front of an operand is an equality sign. -/
theorem declines_unarySign_equals (later : List Char) :
    (do layout; unarySign : Reader UnaryOperator).Declines ('=' :: later) :=
  declines_bind_next (read_layout_solid (isSolid_cons rfl later)) <|
    ((declines_char (avoids_cons rfl later)).bind _).orElse
      ((declines_char (avoids_cons rfl later)).bind _)

/-- Behind an equality sign that no operand begins with there is no further sign either. -/
theorem carries_signs :
    boundary.Carries boundary.BehindSign (do layout; unarySign) fun _ => boundary.BehindSign := by
  have carries : boundary.Carries boundary.Loose (do layout; unarySign)
      fun _ => boundary.BehindSign := carries_layout.bind fun _ => carries_unarySign
  constructor
  · intro tight wide value rest related accepted
    cases related with
    | loose loose => exact carries.accepts loose accepted
    | equals tight wide =>
      obtain ⟨_, refused, _⟩ := declines_unarySign_equals tight
      cases accepted.symm.trans refused
  · intro tight wide related declined
    cases related with
    | loose loose => exact carries.declines loose declined
    | equals tight wide => exact .inl (declines_unarySign_equals wide)

/-! ### Selectors and details -/

/-- The argument of a selector makes the same of both texts. -/
theorem spaced_selectorArgument : boundary.Spaced selectorArgument :=
  (spaced_sign (by decide) (by decide) (by decide)).bind fun _ => carries_layout.bind fun _ =>
    tokenwise_identifier.carries.bind fun _ =>
      (spaced_sign (by decide) (by decide) (by decide)).bind fun _ => .pure _

/-- A selector makes the same of both texts, with its argument or without one. -/
theorem spaced_selector : boundary.Spaced selector := by
  have withArgument (word : String) (result : String → Selector) :
      boundary.Carries boundary.Near
        (do keyword word; let name ← commit selectorArgument; return result name)
        fun _ => boundary.Loose :=
    (spaced_keyword word).bind fun _ => spaced_selectorArgument.commit.bind fun _ => .pure _
  refine carries_layout.bind fun _ => .remarking ?_ _
  exact ((spaced_keyword "any").bind fun _ => .pure _).orElse <|
    (withArgument "role" _).orElse <| (withArgument "type" _).orElse (withArgument "kind" _)

/-- A further selector and the sign in front of it make the same of both texts. -/
theorem spaced_furtherSelector : boundary.Spaced furtherSelector :=
  carries_layout.bind fun _ => (tokenwise_text_pair rfl (by decide)).carries.bind fun _ =>
    spaced_selector.commit

/-- The selectors of a rule make the same of both texts. -/
theorem spaced_selectors : boundary.Spaced selectors :=
  spaced_selector.commit.bind fun _ => (spaced_furtherSelector.many _).bind fun _ => .pure _

/-- A detail makes the same of both texts. -/
theorem spaced_detail : boundary.Spaced detail := by
  have value : boundary.Spaced (do Grammar.sign ':'; layout; quoted) :=
    (spaced_sign (by decide) (by decide) (by decide)).bind fun _ => spaced_quoted
  have comma : boundary.Spaced (Grammar.sign ',') :=
    spaced_sign (by decide) (by decide) (by decide)
  exact carries_layout.bind fun _ =>
    (tokenwise_identifier.orElse tokenwise_quoted).carries.bind fun _ =>
      (value.commit.remarking _).bind fun _ => comma.optional_same.bind fun _ => .pure _

/-- The details of a rule and the braces around them make the same of both texts. -/
theorem spaced_details : boundary.Spaced details := by
  have body : boundary.Spaced (do
      Grammar.sign '\x7b'
      let entries ← many detail consumes_detail
      Grammar.sign '\x7d'
      return .ofList entries : Reader (NameTable String)) :=
    (spaced_sign (by decide) (by decide) (by decide)).bind fun _ =>
      (spaced_detail.many _).bind fun _ =>
        (spaced_sign (by decide) (by decide) (by decide)).bind fun _ => .pure _
  exact carries_layout.bind fun _ => (spaced_keyword "meta").bind fun _ => body.commit

/-! ### The end of a text -/

/-- At the end of the one text the boundary has been passed, and it is the end of the other. -/
theorem carries_finish : boundary.Carries boundary.Near finish fun _ => boundary.Past := by
  refine carries_of_token (fun whole _ _ => ⟨whole, rfl⟩) ?_
  intro token ends tight wide isToken _ _ _ _
  obtain ⟨first, others, rfl⟩ := List.exists_cons_of_ne_nil isToken.ne_nil
  exact .inr ⟨⟨_, rfl, rfl⟩, _, rfl, rfl⟩

/-! ### Operands that begin with a name -/

variable [RegexEngine]

/-- What stands behind the opening parenthesis of a property makes the same of both texts. -/
theorem spaced_propertyRest : boundary.Spaced propertyRest := by
  have name : boundary.Spaced
      (do layout; let name ← quoted; Grammar.sign ')'; return name : Reader String) :=
    carries_layout.bind fun _ => tokenwise_quoted.carries.bind fun _ =>
      (spaced_sign (by decide) (by decide) (by decide)).bind fun _ => .pure _
  exact (name.remarking _).bind fun _ =>
    spaced_propertySuffix.optional_same.bind fun _ => .pure _

section Levels

variable {inner : Reader Expr} (spaced : boundary.Spaced inner)

include spaced

/-- Between the point of a relation and the question behind it there may be layout. A torn boundary
is not refused there for the layout: no question is the word `is_resolved`. -/
theorem spaced_relationRest (relation : Relation) :
    boundary.Carries boundary.BehindPoint (commit (relationRest inner relation))
      fun _ => boundary.Loose := by
  have parts : boundary.Spaced (relationRest inner relation) := by
    refine carries_layout.bind fun _ => spaced_relationQuestion.bind fun question => ?_
    cases question with
    | none => exact .pure _
    | some quantifier =>
      exact (spaced_sign (by decide) (by decide) (by decide)).bind fun _ => spaced.bind fun _ =>
        (spaced_sign (by decide) (by decide) (by decide)).bind fun _ => .pure _
  constructor
  · intro tight wide value rest related accepted
    by_cases torn : boundary.Torn
    · cases related with
      | past whole => exact absurd torn whole
      | ahead ahead => exact parts.commit.accepts (.ahead ahead) accepted
      | front _ =>
        obtain ⟨_, behind, wordRead⟩ := torn
        obtain ⟨_, middle, layoutRead, wordRead⟩ := bind_accepts wordRead
        have another {word : String} (differs : "is_resolved" ≠ word) :
            (keyword word).Declines middle :=
          declines_keyword_of_read (keyword_accepts wordRead) differs
        have noQuestion : relationQuestion.Declines middle :=
          ((another (by decide)).bind _).orElse <| ((another (by decide)).bind _).orElse <|
            ((another (by decide)).bind _).orElse ((another (by decide)).bind _)
        have declines : (relationRest inner relation).Declines boundary.behind :=
          declines_bind_next layoutRead (noQuestion.bind _)
        obtain ⟨_, refused, _⟩ := declines
        cases (commit_accepts accepted).symm.trans refused
    · exact parts.commit.accepts (related.loose torn) accepted
  · intro tight wide _ declined
    exact (commit_declines declined).elim

/-- What may stand behind a name makes the same of both texts, unless the boundary is torn behind a
point. -/
theorem spaced_relationOrName (name : String) : boundary.Spaced (relationOrName inner name) := by
  unfold relationOrName
  split
  · exact .pure _
  · rename_i relation _
    refine carries_point.optional.bind fun choice => ?_
    cases choice with
    | none => exact .pure _
    | some _ => exact spaced_relationRest spaced relation

/-- What begins with a word makes the same of two texts with that word next. -/
theorem spaced_named :
    boundary.Carries boundary.Near (named inner) fun _ => boundary.Loose := by
  refine tokenwise_identifier.carries.bind fun name => ?_
  split
  · exact .pure _
  split
  · exact .pure _
  split
  · have parenthesis : boundary.Spaced (Grammar.sign '(') :=
      spaced_sign (by decide) (by decide) (by decide)
    refine parenthesis.optional_same.bind fun choice => ?_
    cases choice with
    | none => exact spaced_relationOrName spaced name
    | some _ => exact spaced_propertyRest.commit
  · exact spaced_relationOrName spaced name

/-! ### Levels -/

/-- An operand makes the same of both texts. -/
theorem spaced_primary : boundary.Spaced (primary inner) := by
  have opening : (char '(').Tokenwise := tokenwise_char (by decide) (by decide) (by decide)
  have enclosed : boundary.Carries boundary.Near (parenthesized inner) fun _ => boundary.Loose :=
    opening.carries.bind fun _ => spaced.commit.bind fun _ =>
      (spaced_sign (by decide) (by decide) (by decide)).commit.bind fun _ => .pure _
  refine carries_layout.bind fun _ => .remarking ?_ _
  exact enclosed.orElse <| (tokenwise_quoted.carries.bind fun _ => .pure _).orElse <|
    (tokenwise_number.carries.bind fun _ => .pure _).orElse (spaced_named spaced)

omit spaced in
/-- No operand begins with an equality sign. -/
theorem declines_primary_equals (later : List Char) : (primary inner).Declines ('=' :: later) := by
  have another {test : Char → Bool} (fails : test '=' = false) : Avoids test ('=' :: later) :=
    avoids_cons fails later
  refine declines_bind_next (read_layout_solid (isSolid_cons rfl later)) (.remarking ?_ _)
  exact (declines_parenthesized (another rfl)).orElse <|
    ((declines_quoted (another rfl)).bind _).orElse <|
    ((declines_number (another rfl)).bind _).orElse ((declines_identifier (another rfl)).bind _)

/-- Behind a sign in front an operand makes the same of both texts too. Where the sign has been cut
off from a longer one, it declines both. -/
theorem carries_primary :
    boundary.Carries boundary.BehindSign (primary inner) fun _ => boundary.Loose where
  accepts related accepted := by
    cases related with
    | loose loose => exact (spaced_primary spaced).accepts loose accepted
    | equals tight wide =>
      have declines : (primary inner).Declines ('=' :: tight) := declines_primary_equals tight
      obtain ⟨_, refused, _⟩ := declines
      cases accepted.symm.trans refused
  declines related declined := by
    cases related with
    | loose loose => exact (spaced_primary spaced).declines loose declined
    | equals tight wide => exact .inl (declines_primary_equals wide)

/-- An operand with signs in front makes the same of both texts. -/
theorem spaced_signed : boundary.Spaced (signed inner) := by
  have carries : boundary.Carries boundary.BehindSign (signed inner)
      fun _ => boundary.Loose := by
    refine (carries_signs.manyUpTo signLimit).bind fun signs => ?_
    dsimp only
    split
    · exact (carries_primary spaced).bind fun _ => .pure _
    · exact ((carries_primary spaced).commit.remarking _).bind fun _ => .pure _
  exact carries.mono .loose id

end Levels

/-- A level makes the same of both texts if its operands do. -/
theorem spaced_chain {operand : Reader Expr} (spaced : boundary.Spaced operand)
    {operator : Reader BinaryOperator} (consumes : operator.Consumes)
    (tokenwise : operator.Tokenwise) : boundary.Spaced (chain operand operator consumes) := by
  have step : boundary.Spaced (chainStep operand operator) :=
    carries_layout.bind fun _ => tokenwise.carries.bind fun _ => spaced.commit.bind fun _ => .pure _
  exact spaced.bind fun _ => (step.many _).bind fun _ => .pure _

section Levels

variable {inner : Reader Expr} (spaced : boundary.Spaced inner)

include spaced

/-- Products, sums and comparisons make the same of both texts. -/
theorem spaced_comparison : boundary.Spaced (comparison inner) :=
  spaced_chain (spaced_chain (spaced_chain (spaced_signed spaced) _ tokenwise_productSign) _
    tokenwise_sumSign) _ tokenwise_orderSign

/-- A further operand of an equality makes the same of both texts, also if it is a pattern. -/
theorem spaced_equalityStep : boundary.Spaced (equalityStep inner) := by
  refine carries_layout.bind fun _ => tokenwise_equalitySign.carries.bind fun operator => ?_
  have operand := spaced_comparison spaced
  split
  · -- the layout is looked for twice in front of this operand
    have pattern : boundary.Spaced (do layout; (comparison inner).checked matchOperand) :=
      carries_layout.bind fun _ => (operand.checked _).mono Boundary.Near.loose id
    exact pattern.commit.remarking _
  · exact operand.commit.bind fun _ => .pure _

/-- An equality makes the same of both texts. -/
theorem spaced_equality : boundary.Spaced (equality inner) :=
  (spaced_comparison spaced).bind fun _ =>
    ((spaced_equalityStep spaced).many _).bind fun _ => .pure _

/-- An expression makes the same of both texts if what stands between parentheses does. -/
theorem spaced_disjunction : boundary.Spaced (disjunction inner) :=
  spaced_chain (spaced_chain (spaced_equality spaced) _ (tokenwise_signOf_pair rfl (by decide))) _
    (tokenwise_signOf_pair rfl (by decide))

end Levels

/-- An expression makes the same of both texts. Induct on the parentheses that may be opened;
without any left the text is refused for good. -/
theorem spaced_expression (depth : Nat) : boundary.Spaced (expression depth) := by
  induction depth with
  | zero =>
    refine spaced_disjunction ⟨?_, ?_⟩
    · intro tight wide value rest _ accepted
      cases accepted
    · rintro tight wide _ ⟨refusal, refused, tentative⟩
      cases refused
      cases tentative
  | succ depth inductionHypothesis => exact spaced_disjunction inductionHypothesis

/-! ### Rules -/

/-- A clause makes the same of both texts. -/
theorem spaced_clause (depth : Nat) (word : String) : boundary.Spaced (clause depth word) := by
  have body : boundary.Spaced (do Grammar.sign ':'; expression depth) :=
    (spaced_sign (by decide) (by decide) (by decide)).bind fun _ => spaced_expression depth
  exact carries_layout.bind fun _ => (spaced_keyword word).bind fun _ => body.commit

/-- A rule makes the same of both texts. -/
theorem spaced_rule (depth : Nat) : boundary.Spaced (rule depth) := by
  have report : boundary.Spaced
      (do layout; keyword "report"; Grammar.sign ':'; layout; quoted : Reader String) :=
    carries_layout.bind fun _ => (spaced_keyword "report").bind fun _ =>
      (spaced_sign (by decide) (by decide) (by decide)).bind fun _ => spaced_quoted
  refine carries_layout.bind fun _ => (spaced_keyword "rule").bind fun _ =>
    (spaced_quoted.commit.remarking _).bind fun _ =>
    (carries_layout.bind fun _ => spaced_keyword "on").commit.bind fun _ =>
    spaced_selectors.bind fun _ => ?_
  exact ((spaced_sign (by decide) (by decide) (by decide)).commit.remarking _).bind fun _ =>
    spaced_details.optional_same.bind fun _ =>
    (spaced_clause depth "when").optional_same.bind fun _ =>
    ((spaced_clause depth "ensure").commit.remarking _).bind fun _ =>
    (report.commit.remarking _).bind fun _ =>
    ((spaced_sign (by decide) (by decide) (by decide)).commit.remarking _).bind fun _ => .pure _

/-- A text of one rule is read the same with the layout put in, unless the boundary is torn; then it
is refused. -/
theorem carries_oneRule (depth : Nat) :
    boundary.Carries boundary.Loose (oneRule depth) fun _ => boundary.Past :=
  (spaced_rule depth).bind fun _ => carries_layout.bind fun _ =>
    carries_finish.bind fun _ => .pure _

end WidgetAudit.Grammar
