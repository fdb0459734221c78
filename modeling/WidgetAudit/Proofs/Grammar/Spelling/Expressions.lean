import WidgetAudit.Proofs.Grammar.Spelling

/-!
# What readers of expressions take

What is read as an expression is a rendering of it, token by token: no operand and no operator is
left out, put in or moved, and parentheses stand where the table of precedence wants them. This is
the converse of reading a rendering back. A level gives renderings that are as tight as its
operators, and the tightest level gives those that need no parentheses anywhere.
-/

namespace WidgetAudit

/-! ### Rows of signs -/

namespace Rendering

/-- What needs no parentheses anywhere begins with no sign. -/
theorem leadingSigns_of_primary {rendering : Rendering}
    (primary : primaryTightness ≤ rendering.tightness) : rendering.leadingSigns = 0 := by
  cases rendering with
  | signed operator spaced operand =>
    have looser : ¬ primaryTightness ≤ prefixTightness := by decide
    exact absurd primary looser
  | _ => rfl

/-- An operand with signs in front of it. -/
def withSigns (signs : List UnaryOperator) (operand : Rendering) : Rendering :=
  signs.foldr (.signed · false) operand

variable {operand : Rendering} (signs : List UnaryOperator)

/-- The signs in front are counted together with those of the operand. -/
theorem leadingSigns_withSigns :
    (withSigns signs operand).leadingSigns = signs.length + operand.leadingSigns := by
  induction signs with
  | nil => exact (Nat.zero_add _).symm
  | cons first others inductionHypothesis =>
    have onward : (withSigns (first :: others) operand).leadingSigns =
        (withSigns others operand).leadingSigns + 1 := rfl
    rw [onward, inductionHypothesis, List.length_cons]
    omega

/-- A row of signs is as long as it is, together with the signs that follow it. -/
theorem longestRow_withSigns : (withSigns signs operand).longestRow ≤
    max (signs.length + operand.leadingSigns) operand.longestRow := by
  induction signs with
  | nil => exact Nat.le_max_right _ _
  | cons first others inductionHypothesis =>
    have onward : (withSigns (first :: others) operand).longestRow =
        max ((withSigns others operand).leadingSigns + 1) (withSigns others operand).longestRow :=
      rfl
    rw [onward, leadingSigns_withSigns, List.length_cons]
    omega

/-- Signs may stand in front of what is tight enough for one. -/
theorem withSigns_grouped (grouped : operand.isGrouped = true)
    (tight : prefixTightness ≤ operand.tightness) :
    (withSigns signs operand).isGrouped = true ∧
      prefixTightness ≤ (withSigns signs operand).tightness := by
  induction signs with
  | nil => exact ⟨grouped, tight⟩
  | cons first others inductionHypothesis =>
    obtain ⟨othersGrouped, othersTight⟩ := inductionHypothesis
    refine ⟨?_, Nat.le_refl _⟩
    exact Bool.and_eq_true_iff.mpr ⟨othersGrouped, decide_eq_true othersTight⟩

end Rendering

namespace Grammar

open Reader

/-! ### Words -/

/-- The word of a relation names it. -/
theorem word_of_relation {name : String} {relation : Relation}
    (found : Relation.ofWord? name = some relation) : relation.word = name := by
  simpa using List.find?_some found

/-- The word of a state names it. -/
theorem word_of_state {name : String} {fact : NodeState}
    (found : NodeState.ofWord? name = some fact) : fact.word = name := by
  simpa using List.find?_some found

/-- The name of a type is a word. -/
theorem spells_castTarget : castTarget.Spells fun target said => said = [.word target.word] := by
  have alternative (word : String) (target : CastTarget) (same : target.word = word) :
      (do keyword word; return target : Reader CastTarget).Spells
        fun target said => said = [.word target.word] := by
    refine (spells_keyword word).behind fun _ => ?_
    exact .pure (by rw [same]; rfl)
  exact (alternative "int" .int rfl).orElse <|
    (alternative "string" .string rfl).orElse (alternative "bool" .bool rfl)

/-- What follows a property says how it is read. -/
theorem spells_propertySuffix :
    propertySuffix.Spells fun access said => said = access.lexemes := by
  refine .orElse ?_ ?_
  · refine (spells_sign (by decide)).behind fun _ => ?_
    refine (spells_keyword "is_resolved").commit.behind fun _ => ?_
    exact .pure rfl
  · refine spells_layout.behind fun _ => ?_
    refine (spells_keyword "as").behind fun _ => ?_
    have target : (do layout; castTarget : Reader CastTarget).Spells
        fun target said => said = [.word target.word] := by
      refine spells_layout.behind fun _ => ?_
      exact spells_castTarget
    refine target.commit.bind ?_
    rintro target _ rfl
    exact .pure rfl

/-- What a question about a relation says. -/
def questionWord : Option Quantifier → String
  | none => "length"
  | some quantifier => quantifier.word

/-- The word for what is asked of related nodes is one word. -/
theorem spells_relationQuestion :
    relationQuestion.Spells fun question said => said = [.word (questionWord question)] := by
  have alternative (word : String) (question : Option Quantifier)
      (same : questionWord question = word) :
      (do keyword word; return question : Reader (Option Quantifier)).Spells
        fun question said => said = [.word (questionWord question)] := by
    refine (spells_keyword word).behind fun _ => ?_
    exact .pure (by rw [same]; rfl)
  exact (alternative "length" none rfl).orElse <| (alternative "any" (some .any) rfl).orElse <|
    (alternative "all" (some .all) rfl).orElse (alternative "none" (some .none) rfl)

/-! ### Signs in front -/

/-- A sign in front of an operand has been read off the text. -/
theorem unarySign_accepts {input rest : List Char} {operator : UnaryOperator}
    (accepted : unarySign.read input = .ok (operator, rest)) : input = operator.sign :: rest := by
  rcases orElse_accepts accepted with own | ⟨_, own⟩ <;>
    obtain ⟨_, middle, charRead, given⟩ := bind_accepts own <;>
    cases given <;>
    exact char_accepts charRead

/-- A sign in front of an operand is a token, unless an equality sign stands behind it. -/
theorem isToken_unarySign (operator : UnaryOperator) :
    IsToken [operator.sign] (Avoids (joins operator.sign)) ∧
      ∀ behind, Avoids (· == '=') behind → Avoids (joins operator.sign) behind := by
  cases operator with
  | not =>
    refine ⟨.single (by decide), fun behind avoids => avoids.narrow fun char joined => ?_⟩
    simpa [UnaryOperator.sign, joins, signPairs] using joined
  | negate => exact ⟨.single (by decide), fun behind _ => avoids_joins (by decide) (by decide) _⟩

/-- Signs in front of an operand are said one after the other. An exclamation mark is a token of
its own because neither a further sign nor an operand begins with an equality sign. -/
theorem signs_accepts {limit : Nat} {input rest : List Char} {signs : List UnaryOperator}
    (accepted : (manyUpTo (do layout; unarySign) limit).read input = .ok (signs, rest))
    (ends : Avoids (· == '=') rest) :
    signs.length ≤ limit ∧ Avoids (· == '=') input ∧ ∃ tokens, Lexed input tokens rest ∧
      tokens.map Lexeme.ofToken = signs.map fun operator => .sign operator.sign := by
  induction limit generalizing input signs with
  | zero =>
    cases accepted
    exact ⟨Nat.zero_le _, ends, [], .stay _, rfl⟩
  | succ limit inductionHypothesis =>
    obtain ⟨choice, middle, choiceRead, laterRead⟩ := bind_accepts accepted
    rcases optional_accepts choiceRead with ⟨operator, rfl, found⟩ | ⟨rfl, rfl, _⟩
    · obtain ⟨others, last, othersRead, given⟩ := bind_accepts laterRead
      cases given
      obtain ⟨short, avoids, tokens, lexed, said⟩ := inductionHypothesis othersRead
      obtain ⟨_, place, layoutRead, signRead⟩ := bind_accepts found
      obtain ⟨skipped, ahead, nothing⟩ := spells_layout layoutRead
      obtain ⟨isToken, ended⟩ := isToken_unarySign operator
      have lexedSign : Lexed place ([operator.sign] :: tokens) rest := by
        rw [unarySign_accepts signRead]
        exact .token isToken (ended middle avoids) lexed
      have signs : isSign operator.sign = true := by cases operator <;> decide
      refine ⟨Nat.succ_le_succ short, ?_, skipped ++ [operator.sign] :: tokens,
        ahead.append lexedSign, ?_⟩
      · -- the sign in front of this row ends here, since no sign is an equality sign
        rintro first later rfl
        rw [beq_eq_false_iff_ne]
        rintro rfl
        obtain ⟨_, refused, _⟩ := declines_unarySign_equals later
        cases found.symm.trans refused
      · rw [List.map_append, nothing, List.map_cons, ofToken_sign signs, said]
        rfl
    · cases laterRead
      exact ⟨Nat.zero_le _, ends, [], .stay _, rfl⟩

/-! ### Operators -/

/-- The lexemes are an operator of such a level. -/
def IsSignOf (level : Nat) (operator : BinaryOperator) (said : List Lexeme) : Prop :=
  operator.tightness = level ∧ said = [.word operator.sign]

/-- The sign of an operator has been read off the text. -/
theorem signOf_accepts {operator joint : BinaryOperator} {input rest : List Char}
    (accepted : (signOf operator).read input = .ok (joint, rest)) :
    joint = operator ∧ input = operator.sign.toList ++ rest := by
  obtain ⟨_, middle, signRead, given⟩ := bind_accepts accepted
  cases given
  exact ⟨rfl, text_accepts signRead⟩

/-- An operator that is written as a word is a lexeme. -/
theorem spells_wordOf (operator : BinaryOperator) :
    (wordOf operator).Spells (IsSignOf operator.tightness) := by
  refine (spells_keyword operator.sign).behind fun _ => ?_
  exact .pure ⟨rfl, rfl⟩

/-- An operator that is written as two characters is one lexeme. -/
theorem spells_signOf_pair {operator : BinaryOperator} {first second : Char}
    (form : operator.sign.toList = [first, second]) (listed : (first, second) ∈ signPairs) :
    (signOf operator).Spells (IsSignOf operator.tightness) := by
  refine (spells_text_pair form listed).behind fun _ => ?_
  exact .pure ⟨rfl, rfl⟩

/-- A sign of one character is a token where it does not go on. -/
theorem signOf_single_accepts {operator joint : BinaryOperator} {char : Char}
    (form : operator.sign.toList = [char]) (sign : isSign char = true) {input rest : List Char}
    (ends : Avoids (joins char) rest)
    (accepted : (signOf operator).read input = .ok (joint, rest)) :
    ∃ tokens, Lexed input tokens rest ∧
      IsSignOf operator.tightness joint (tokens.map Lexeme.ofToken) := by
  obtain ⟨rfl, rfl⟩ := signOf_accepts accepted
  rw [form]
  refine ⟨[[char]], .token (.single sign) ends (.stay rest), rfl, ?_⟩
  rw [List.map_singleton, ofToken_sign sign, Lexeme.word, form]

/-- An operator that is written as one character is a lexeme if that begins no pair. -/
theorem spells_signOf_single {operator : BinaryOperator} {char : Char}
    (form : operator.sign.toList = [char]) (lone : isLone char = true) :
    (signOf operator).Spells (IsSignOf operator.tightness) := by
  intro input joint rest accepted
  obtain ⟨sign, ends⟩ := ends_of_isLone lone rest
  exact signOf_single_accepts form sign ends accepted

/-- A sign that begins one pair is a token behind the attempt to read that pair. -/
theorem spells_order {longer shorter : BinaryOperator} {first second : Char}
    (form : longer.sign.toList = [first, second]) (shortForm : shorter.sign.toList = [first])
    (listed : (first, second) ∈ signPairs) (noSlash : first ≠ '/')
    (only : (signPairs.all fun pair => pair.1 != first || pair.2 == second) = true)
    (sameLevel : shorter.tightness = longer.tightness) :
    (signOf longer <|> signOf shorter).Spells (IsSignOf longer.tightness) := by
  intro input joint rest accepted
  rcases orElse_accepts accepted with found | ⟨declines, found⟩
  · exact spells_signOf_pair form listed found
  · rw [← sameLevel]
    refine signOf_single_accepts shortForm (isSign_of_mem_signPairs listed).1 ?_ found
    intro char later same
    rw [Bool.eq_false_iff]
    intro joined
    simp only [joins, Bool.or_eq_true, List.contains_iff_mem, Bool.and_eq_true,
      beq_iff_eq] at joined
    obtain pair | ⟨slash, _⟩ := joined
    · have listedOnly := List.all_eq_true.mp only _ pair
      obtain rfl : char = second := by simpa using listedOnly
      obtain ⟨_, rfl⟩ := signOf_accepts found
      rcases bind_declines declines with atSign | ⟨_, _, _, _, given, _⟩
      · have other := text_declines atSign
        rw [form, shortForm, same] at other
        simp at other
      · cases given
    · exact noSlash slash

/-- An operator of equality is a lexeme of its level, whichever it is. -/
theorem spells_equalitySign : equalitySign.Spells (IsSignOf 2) :=
  (spells_signOf_pair rfl (by decide)).orElse <| (spells_signOf_pair rfl (by decide)).orElse <|
    (spells_signOf_pair rfl (by decide)).orElse <|
      (spells_wordOf .contains).orElse (spells_wordOf .matching)

/-- An operator of order is a lexeme of its level, the shorter one being tried behind the longer
one. -/
theorem spells_orderSign : orderSign.Spells (IsSignOf 3) := by
  have less : (signOf .lessOrEqual <|> signOf .less).Spells (IsSignOf 3) :=
    spells_order rfl rfl (by decide) (by decide) (by decide) rfl
  have greater : (signOf .greaterOrEqual <|> signOf .greater).Spells (IsSignOf 3) :=
    spells_order rfl rfl (by decide) (by decide) (by decide) rfl
  rw [orderSign, orElse_assoc]
  exact less.orElse greater

/-- An operator of sums is a lexeme of its level. -/
theorem spells_sumSign : sumSign.Spells (IsSignOf 4) :=
  (spells_signOf_single rfl (by decide)).orElse
    (spells_signOf_single rfl (by decide))

end Grammar

/-! ### Renderings of one level -/

variable [RegexEngine]

/-- The lexemes are those of a rendering of the expression that may stand as an operand of such a
level: with parentheses at least where the table wants them, and with no row of signs that is too
long. -/
def Expr.IsSpelled (level : Nat) (expr : Expr) (said : List Lexeme) : Prop :=
  ∃ rendering : Rendering, rendering.expr = expr ∧ rendering.lexemes = said ∧
    rendering.isGrouped = true ∧ rendering.longestRow ≤ Grammar.signLimit ∧
    level ≤ rendering.tightness

namespace Expr

/-- A tighter rendering may stand where a looser one may. -/
theorem IsSpelled.mono {expr : Expr} {level other : Nat} {said : List Lexeme}
    (spelled : expr.IsSpelled level said) (looser : other ≤ level) :
    expr.IsSpelled other said := by
  obtain ⟨rendering, meaning, spelling, grouped, rows, tight⟩ := spelled
  exact ⟨rendering, meaning, spelling, grouped, rows, looser.trans tight⟩

/-- A leaf may stand anywhere. -/
theorem isSpelled_leaf (form : Leaf) : form.expr.IsSpelled primaryTightness form.expr.lexemes :=
  ⟨.leaf form, rfl, rfl, rfl, Nat.zero_le _, Nat.le_refl _⟩

/-- Between parentheses any expression may stand anywhere. -/
theorem IsSpelled.enclosed {expr : Expr} {said : List Lexeme} (spelled : expr.IsSpelled 0 said) :
    expr.IsSpelled primaryTightness (.sign '(' :: (said ++ [.sign ')'])) := by
  obtain ⟨rendering, rfl, rfl, grouped, rows, _⟩ := spelled
  exact ⟨.enclosed rendering, rfl, rfl, grouped, rows, Nat.le_refl _⟩

/-- Around a condition that may be any expression the parentheses are part of the quantifier. -/
theorem IsSpelled.quantified {body : Expr} {said : List Lexeme} (spelled : body.IsSpelled 0 said)
    (relation : Relation) (quantifier : Quantifier) :
    (Expr.quantified relation quantifier body).IsSpelled primaryTightness
      (.word relation.word :: .sign '.' :: .word quantifier.word :: .sign '(' ::
        (said ++ [.sign ')'])) := by
  obtain ⟨rendering, rfl, rfl, grouped, rows, _⟩ := spelled
  exact ⟨.quantified relation quantifier rendering, rfl, rfl, grouped, rows, Nat.le_refl _⟩

/-- Two operands and the operator between them: the right operand has to be tighter. -/
theorem IsSpelled.joined {operator : BinaryOperator} {left right : Expr}
    {before behind : List Lexeme} (leftSpelled : left.IsSpelled operator.tightness before)
    (rightSpelled : right.IsSpelled (operator.tightness + 1) behind) :
    (join operator left right).IsSpelled operator.tightness
      (before ++ .word operator.sign :: behind) := by
  obtain ⟨leftForm, rfl, rfl, leftGrouped, leftRows, leftTight⟩ := leftSpelled
  obtain ⟨rightForm, rfl, rfl, rightGrouped, rightRows, rightTight⟩ := rightSpelled
  refine ⟨.joined operator leftForm rightForm, rfl, rfl, ?_, Nat.max_le.mpr ⟨leftRows, rightRows⟩,
    Nat.le_refl _⟩
  have tighter : operator.tightness < rightForm.tightness := rightTight
  simp only [Rendering.isGrouped, leftGrouped, rightGrouped, leftTight, tighter, decide_true,
    Bool.and_true]

end Expr

namespace Rendering

variable {operand : Rendering} (signs : List UnaryOperator)

/-- The signs apply to the operand from the inside out. -/
theorem expr_withSigns : (withSigns signs operand).expr = signs.foldr .unary operand.expr := by
  induction signs with
  | nil => rfl
  | cons first others inductionHypothesis => exact congrArg (Expr.unary first) inductionHypothesis

/-- The signs are said in front of the operand, one by one. -/
theorem lexemes_withSigns : (withSigns signs operand).lexemes =
    signs.map (fun operator => .sign operator.sign) ++ operand.lexemes := by
  induction signs with
  | nil => rfl
  | cons first others inductionHypothesis =>
    exact congrArg (Lexeme.sign first.sign :: ·) inductionHypothesis

end Rendering

/-- Signs may stand in front of what needs no parentheses anywhere. -/
theorem Expr.IsSpelled.signed {operand : Expr} {said : List Lexeme}
    (spelled : operand.IsSpelled primaryTightness said) {signs : List UnaryOperator}
    (short : signs.length ≤ Grammar.signLimit) :
    (signs.foldr .unary operand).IsSpelled prefixTightness
      (signs.map (fun operator => .sign operator.sign) ++ said) := by
  obtain ⟨rendering, rfl, rfl, grouped, rows, tight⟩ := spelled
  have prefixed : prefixTightness ≤ rendering.tightness := Nat.le_trans (by decide) tight
  obtain ⟨signsGrouped, signsTight⟩ := Rendering.withSigns_grouped signs grouped prefixed
  have row : (Rendering.withSigns signs rendering).longestRow ≤
      max (signs.length + rendering.leadingSigns) rendering.longestRow :=
    Rendering.longestRow_withSigns signs
  rw [Rendering.leadingSigns_of_primary tight] at row
  exact ⟨.withSigns signs rendering, Rendering.expr_withSigns signs,
    Rendering.lexemes_withSigns signs, signsGrouped, by omega, signsTight⟩

namespace Grammar

open Reader

/-! ### Operands -/

/-- A name that is nothing else spells the expression that it is. -/
theorem isSpelled_plainName (name : String) :
    (plainName name).IsSpelled primaryTightness [.word name] := by
  unfold plainName
  split
  · rename_i fact found
    rw [← word_of_state found]
    exact Expr.isSpelled_leaf (.state fact)
  · exact Expr.isSpelled_leaf (.name name)

/-- A property says its key and how it is read. -/
theorem spells_propertyRest : propertyRest.Spells fun expr said =>
    expr.IsSpelled primaryTightness (.word "prop" :: .sign '(' :: said) := by
  have name : (do layout; let name ← quoted; Grammar.sign ')'; return name : Reader String).Spells
      fun key said => said = [.text key, .sign ')'] := by
    refine spells_layout.behind fun _ => ?_
    refine spells_quoted.bind ?_
    rintro key _ rfl
    refine (spells_sign (by decide)).behind fun _ => ?_
    exact .pure rfl
  refine (name.remarking _).bind ?_
  rintro key _ rfl
  refine spells_propertySuffix.optional.bind ?_
  rintro _ _ (⟨rfl, rfl⟩ | ⟨access, rfl, rfl⟩)
  · exact .pure (Expr.isSpelled_leaf (.property key .raw))
  · refine .pure ?_
    rw [List.append_nil]
    exact Expr.isSpelled_leaf (.property key access)

section Operands

variable {inner : Reader Expr} (spells : inner.Spells (Expr.IsSpelled 0))

include spells

/-- A question about related nodes says its word, and its condition between parentheses. -/
theorem spells_relationRest (relation : Relation) : (relationRest inner relation).Spells
    fun expr said =>
      expr.IsSpelled primaryTightness (.word relation.word :: .sign '.' :: said) := by
  refine spells_layout.behind fun _ => ?_
  refine spells_relationQuestion.bind ?_
  rintro question _ rfl
  cases question with
  | none => exact .pure (Expr.isSpelled_leaf (.count relation))
  | some quantifier =>
    refine (spells_sign (by decide)).behind fun _ => ?_
    refine spells.bind ?_
    rintro body said spelled
    refine (spells_sign (by decide)).behind fun _ => ?_
    refine .pure ?_
    simpa [questionWord] using spelled.quantified relation quantifier

/-- Behind its name, a relation or a bare name says the rest of it. -/
theorem spells_relationOrName (name : String) : (relationOrName inner name).Spells
    fun expr said => expr.IsSpelled primaryTightness (.word name :: said) := by
  unfold relationOrName
  split
  · exact .pure (isSpelled_plainName name)
  · rename_i relation found
    rw [← word_of_relation found]
    refine (spells_sign (by decide)).optional.bind ?_
    rintro _ _ (⟨rfl, rfl⟩ | ⟨_, rfl, rfl⟩)
    · exact .pure (isSpelled_plainName relation.word)
    · exact (spells_relationRest spells relation).commit

/-- What begins with a word needs no parentheses anywhere. -/
theorem spells_named :
    (named inner).Spells (Expr.IsSpelled primaryTightness) := by
  refine spells_identifier.bind ?_
  rintro name _ rfl
  split
  · rename_i same
    subst same
    exact .pure (Expr.isSpelled_leaf (.literal (.bool true)))
  split
  · rename_i same
    subst same
    exact .pure (Expr.isSpelled_leaf (.literal (.bool false)))
  split
  · rename_i same
    subst same
    refine (spells_sign (by decide)).optional.bind ?_
    rintro _ _ (⟨rfl, rfl⟩ | ⟨_, rfl, rfl⟩)
    · exact spells_relationOrName spells "prop"
    · exact spells_propertyRest.commit
  · exact spells_relationOrName spells name

/-- Parentheses are said, and what stands between them. -/
theorem spells_parenthesized :
    (parenthesized inner).Spells (Expr.IsSpelled primaryTightness) := by
  refine (spells_char (by decide)).behind fun _ => ?_
  refine spells.commit.bind ?_
  rintro expr said spelled
  refine (spells_sign (by decide)).commit.behind fun _ => ?_
  exact .pure (by simpa using spelled.enclosed)

/-- An operand without a sign in front needs no parentheses anywhere. -/
theorem spells_primary :
    (primary inner).Spells (Expr.IsSpelled primaryTightness) := by
  have text : (do let content ← quoted; return .literal (.string content) : Reader Expr).Spells
      (Expr.IsSpelled primaryTightness) := by
    refine spells_quoted.bind ?_
    rintro content _ rfl
    exact .pure (Expr.isSpelled_leaf (.literal (.string content)))
  have digits : (do let value ← number; return .literal value : Reader Expr).Spells
      (Expr.IsSpelled primaryTightness) := by
    refine spells_number.bind ?_
    rintro value _ rfl
    exact .pure (Expr.isSpelled_leaf (.literal value))
  refine spells_layout.behind fun _ => ?_
  exact ((spells_parenthesized spells).orElse <| text.orElse <|
    digits.orElse (spells_named spells)).remarking _

/-- An operand with signs in front is as tight as a sign. -/
theorem spells_signed :
    (signed inner).Spells (Expr.IsSpelled prefixTightness) := by
  intro input expr rest accepted
  obtain ⟨signs, middle, signsRead, laterRead⟩ := bind_accepts accepted
  obtain ⟨operand, found, rfl⟩ : ∃ operand,
      (primary inner).read middle = .ok (operand, rest) ∧ expr = signs.foldr .unary operand := by
    dsimp only at laterRead
    split at laterRead <;> obtain ⟨operand, last, operandRead, given⟩ := bind_accepts laterRead <;>
      cases given
    · exact ⟨operand, operandRead, rfl⟩
    · exact ⟨operand, commit_accepts (remarking_accepts operandRead), rfl⟩
  have ends : Avoids (· == '=') middle := by
    rintro first later rfl
    rw [beq_eq_false_iff_ne]
    rintro rfl
    obtain ⟨_, refused, _⟩ := declines_primary_equals later
    cases found.symm.trans refused
  obtain ⟨short, _, tokens, lexed, said⟩ := signs_accepts signsRead ends
  obtain ⟨others, onward, spelled⟩ := spells_primary spells found
  refine ⟨tokens ++ others, lexed.append onward, ?_⟩
  rw [List.map_append, said]
  exact spelled.signed short

end Operands

/-! ### Levels -/

/-- An operator of such a level and the operand on its right. -/
def IsStepOf (level : Nat) (step : BinaryOperator × Expr) (said : List Lexeme) : Prop :=
  step.1.tightness = level ∧ ∃ own,
    said = .word step.1.sign :: own ∧ step.2.IsSpelled (level + 1) own

/-- A further operand of a level says its operator and what the operand says. -/
theorem spells_chainStep {operand : Reader Expr} {operator : Reader BinaryOperator} {level : Nat}
    (spells : operand.Spells (Expr.IsSpelled (level + 1)))
    (signs : operator.Spells (IsSignOf level)) :
    (chainStep operand operator).Spells (IsStepOf level) := by
  refine spells_layout.behind fun _ => ?_
  refine signs.bind ?_
  rintro joint _ ⟨onLevel, rfl⟩
  refine spells.commit.bind ?_
  rintro next own spelled
  exact .pure ⟨onLevel, own, by simp, spelled⟩

/-- A slash is a token of its own in front of a factor: layout has been skipped, and no factor
begins with a slash that begins no comment. -/
theorem spells_factor {inner : Reader Expr}
    (spells : (signed inner).Spells (Expr.IsSpelled prefixTightness)) :
    (chainStep (signed inner) productSign).Spells (IsStepOf 5) := by
  intro input step rest accepted
  obtain ⟨_, place, layoutRead, stepRead⟩ := bind_accepts accepted
  obtain ⟨joint, behind, signRead, nextRead⟩ := bind_accepts stepRead
  obtain ⟨next, last, operandRead, given⟩ := bind_accepts nextRead
  cases given
  obtain ⟨skipped, ahead, nothing⟩ := spells_layout layoutRead
  obtain ⟨others, onward, spelled⟩ := spells (commit_accepts operandRead)
  have sign : ∃ tokens, Lexed place tokens behind ∧
      IsSignOf 5 joint (tokens.map Lexeme.ofToken) := by
    rcases orElse_accepts signRead with star | ⟨_, slash⟩
    · exact spells_signOf_single rfl (by decide) star
    · -- two slashes would have been a comment, and the operand would begin with the second
      have ends : Avoids (joins '/') behind := by
        intro char later same
        rw [Bool.eq_false_iff]
        intro joined
        obtain rfl : char = '/' := by simpa [joins, signPairs] using joined
        obtain ⟨_, rfl⟩ := signOf_accepts slash
        subst same
        have declines := declines_layoutPiece_slash (layout_accepts layoutRead).2
        obtain ⟨_, refused, _⟩ := declines_signed_slash inner declines
        cases (commit_accepts operandRead).symm.trans refused
      exact signOf_single_accepts rfl (by decide) ends slash
  obtain ⟨tokens, lexed, onLevel, said⟩ := sign
  refine ⟨skipped ++ (tokens ++ others), ahead.append (lexed.append onward), onLevel,
    others.map Lexeme.ofToken, ?_, spelled⟩
  rw [List.map_append, List.map_append, nothing, said]
  rfl

/-- Operands joined from the left are an expression of the level of their operators. -/
theorem spells_chain {operand : Reader Expr} {operator : Reader BinaryOperator} {level : Nat}
    (other : level ≠ BinaryOperator.matching.tightness)
    (spells : operand.Spells (Expr.IsSpelled (level + 1)))
    (steps : (chainStep operand operator).Spells (IsStepOf level)) (consumes : operator.Consumes) :
    (chain operand operator consumes).Spells (Expr.IsSpelled level) := by
  refine spells.bind fun first said spelled => ?_
  refine (steps.many _).bind fun others more each => .pure ?_
  rw [List.append_nil]
  refine each.foldl ?_ (spelled.mono (Nat.le_succ level))
  rintro left ⟨joint, right⟩ before _ leftSpelled ⟨rfl, own, rfl, rightSpelled⟩
  have noMatching : joint ≠ .matching := fun same => other (congrArg _ same)
  have plain : Expr.join joint left right = .binary joint left right :=
    Expr.join_of_not_text left (by simp [noMatching])
  rw [← plain]
  exact leftSpelled.joined rightSpelled

section Levels

variable {inner : Reader Expr} (spells : inner.Spells (Expr.IsSpelled 0))

include spells

/-- Comparisons are as tight as the operators of order. -/
theorem spells_comparison :
    (comparison inner).Spells (Expr.IsSpelled 3) := by
  have factors := spells_signed spells
  have products := spells_chain (by decide) factors (spells_factor factors) consumes_productSign
  have sums := spells_chain (by decide) products (spells_chainStep products spells_sumSign)
    consumes_sumSign
  exact spells_chain (by decide) sums (spells_chainStep sums spells_orderSign) consumes_orderSign

omit spells in
/-- Behind `matches` a text is joined as a pattern, and anything else as an operand. -/
theorem matchOperand_join {operand : Expr} {step : Expr → Expr}
    (passes : matchOperand operand = .ok step) (left : Expr) :
    step left = .join .matching left operand := by
  unfold matchOperand at passes
  split at passes
  · rename_i source
    split at passes
    · rename_i pattern compiled
      cases passes
      rw [← Pattern.compile_eq_ok_iff.mp compiled, Expr.join_source]
    · cases passes
  · rename_i noText
    cases passes
    refine (Expr.join_of_not_text left ?_).symm
    cases operand with
    | literal value =>
      cases value with
      | string source => exact absurd rfl (noText source)
      | _ => rfl
    | _ => rfl

/-- An operator of the level of equality extends what stands on its left by the operator and its
right operand. -/
theorem spells_equalityStep : (equalityStep inner).Spells fun step more =>
    ∀ left before, left.IsSpelled 2 before → (step left).IsSpelled 2 (before ++ more) := by
  have operands := spells_comparison spells
  refine spells_layout.behind fun _ => ?_
  refine spells_equalitySign.bind ?_
  rintro operator _ ⟨onLevel, rfl⟩
  have joined {left right : Expr} {before own : List Lexeme} (leftSpelled : left.IsSpelled 2 before)
      (rightSpelled : right.IsSpelled 3 own) :
      (Expr.join operator left right).IsSpelled 2 (before ++ ([.word operator.sign] ++ own)) := by
    have tighter : right.IsSpelled (operator.tightness + 1) own := by rwa [onLevel]
    rw [← onLevel] at leftSpelled ⊢
    exact leftSpelled.joined tighter
  split
  · rename_i matching
    subst matching
    refine Spells.remarking (Spells.commit (spells_layout.behind fun _ => ?_)) _
    refine operands.checked ?_
    intro operand step own passes spelled left before leftSpelled
    rw [matchOperand_join passes left]
    exact joined leftSpelled spelled
  · rename_i noMatching
    refine operands.commit.bind fun right own spelled => .pure ?_
    intro left before leftSpelled
    have plain : Expr.join operator left right = .binary operator left right :=
      Expr.join_of_not_text left (by simp [noMatching])
    have spelledJoin := joined leftSpelled spelled
    rw [plain] at spelledJoin
    simpa using spelledJoin

/-- Equalities are as tight as the operators of equality. -/
theorem spells_equality : (equality inner).Spells (Expr.IsSpelled 2) := by
  refine (spells_comparison spells).bind fun first said spelled => ?_
  refine ((spells_equalityStep spells).many _).bind fun steps more each => .pure ?_
  rw [List.append_nil]
  exact each.foldl (fun left step before own leftSpelled spells => spells left before leftSpelled)
    (spelled.mono (Nat.le_succ 2))

/-- A whole expression may be of the loosest level. -/
theorem spells_disjunction :
    (disjunction inner).Spells (Expr.IsSpelled 0) := by
  have equalities := spells_equality spells
  have conjunctionSigns : conjunctionSign.Spells (IsSignOf 1) :=
    spells_signOf_pair rfl (by decide)
  have disjunctionSigns : disjunctionSign.Spells (IsSignOf 0) :=
    spells_signOf_pair rfl (by decide)
  have conjunctions := spells_chain (by decide) equalities
    (spells_chainStep equalities conjunctionSigns) (consumes_signOf _)
  exact spells_chain (by decide) conjunctions (spells_chainStep conjunctions disjunctionSigns)
    (consumes_signOf _)

end Levels

/-- What is read as an expression is a rendering of it. -/
theorem spells_expression (depth : Nat) :
    (expression depth).Spells (Expr.IsSpelled 0) := by
  induction depth with
  | zero =>
    refine spells_disjunction ?_
    rintro _ _ _ ⟨⟩
  | succ depth inductionHypothesis => exact spells_disjunction inductionHypothesis

end Grammar

end WidgetAudit
