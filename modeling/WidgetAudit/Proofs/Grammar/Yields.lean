import WidgetAudit.Proofs.Grammar.Clauses
import WidgetAudit.Proofs.Grammar.Inversion

/-!
# What the grammar yields

Whatever the grammar reads can be written. Its names are identifiers, its numbers have no sign,
a text behind `matches` has become a pattern, and a rule has selectors; nothing else is asked
of an expression or of a selector that is to be printed. How many parentheses the printed form
needs is another matter, and nothing is said about it here.
-/

namespace WidgetAudit

/-! ### Numbers -/

namespace Binary64

/-- The number is no negative finite one. -/
def Unsigned (number : Binary64) : Prop :=
  ∀ negative significand exponent canonical,
    number = .finite negative significand exponent canonical → negative = false

/-- What is put together without a sign has none. -/
theorem unsigned_ofParts (significand : Nat) (exponent : Int) :
    (ofParts false significand exponent).Unsigned := by
  rintro negative _ _ _ same
  unfold ofParts at same
  split at same
  · cases same
    rfl
  · cases same

/-- Zero has none. -/
theorem unsigned_zero : (zero false).Unsigned := by
  rintro negative _ _ _ ⟨⟩
  rfl

/-- Rounding keeps the sign that it is given. -/
theorem unsigned_round (magnitude : Rat) : (round false magnitude).Unsigned := by
  unfold round
  split
  · exact unsigned_zero
  · dsimp only
    split
    · exact unsigned_ofParts _ _
    · exact unsigned_ofParts _ _

end Binary64

/-- Digits without a sign write no negative number. -/
theorem Numeral.unsigned_scaled (coefficient : Nat) (exponent : Int) :
    (Numeral.scaled false coefficient exponent).Unsigned := by
  unfold Numeral.scaled
  split
  · exact Binary64.unsigned_zero
  split
  · rintro negative _ _ _ ⟨⟩
  split
  · exact Binary64.unsigned_zero
  · exact Binary64.unsigned_round _

namespace Grammar

open Reader

/-- The value of a number can be written. -/
theorem numberValue_normal {whole : List Char} {places : Option (List Char)} {value : Value}
    (meaning : numberValue whole places = some value) : value.isNormal = true := by
  have floats {coefficient : Nat} {exponent : Int} (given :
      (if (Numeral.scaled false coefficient exponent).isFinite then
        some (Value.float (Numeral.scaled false coefficient exponent)) else none) = some value) :
      value.isNormal = true := by
    have unsigned := Numeral.unsigned_scaled coefficient exponent
    split at given
    · rename_i finite
      cases given
      cases number : Numeral.scaled false coefficient exponent with
      | finite negative significand exponent canonical =>
        simp [Value.isNormal, unsigned _ _ _ _ number]
      | nan => simp [number, Binary64.isFinite] at finite
      | infinite negative => simp [number, Binary64.isFinite] at finite
    · cases given
  unfold numberValue at meaning
  cases places with
  | some places => exact floats meaning
  | none =>
    dsimp only at meaning
    split at meaning
    · rename_i number found
      cases meaning
      simp [Value.isNormal, toInt_of_int64? found]
    · exact floats meaning

namespace Reader

variable {α β : Type}

/-- Every value that the reader accepts has the property. -/
def Yields (reader : Reader α) (good : α → Prop) : Prop :=
  ∀ ⦃input value rest⦄, reader.read input = .ok (value, rest) → good value

/-! ### Combinators -/

namespace Yields

/-- Nothing need be known of what is read. -/
theorem any (reader : Reader α) : reader.Yields fun _ => True := fun _ _ _ _ => trivial

/-- What is given without reading is known. -/
protected theorem pure {value : α} {good : α → Prop} (isGood : good value) :
    (pure value : Reader α).Yields good := by
  rintro _ _ _ ⟨⟩
  exact isGood

/-- What the first part yields may be used for what the second one yields. -/
protected theorem bind {first : Reader α} {next : α → Reader β} {good : α → Prop}
    {better : β → Prop} (yields : first.Yields good)
    (nextYields : ∀ value, good value → (next value).Yields better) :
    (first >>= next).Yields better := by
  intro input result rest accepted
  obtain ⟨value, middle, begun, later⟩ := bind_accepts accepted
  exact nextYields value (yields begun) later

/-- What is read in front may be anything. -/
theorem behind {first : Reader α} {next : α → Reader β} {good : β → Prop}
    (nextYields : ∀ value, (next value).Yields good) : (first >>= next).Yields good :=
  (any first).bind fun value _ => nextYields value

/-- A choice yields what both alternatives yield. -/
protected theorem orElse {first second : Reader α} {good : α → Prop} (yields : first.Yields good)
    (secondYields : second.Yields good) : (first <|> second).Yields good := by
  intro input value rest accepted
  rcases orElse_accepts accepted with found | ⟨_, found⟩
  · exact yields found
  · exact secondYields found

/-- An option yields what its reader yields, if anything. -/
protected theorem optional {reader : Reader α} {good : α → Prop} (yields : reader.Yields good) :
    (optional reader).Yields fun choice => ∀ value, choice = some value → good value := by
  rintro input _ rest accepted value rfl
  rcases optional_accepts accepted with ⟨_, ⟨⟩, found⟩ | ⟨⟨⟩, _⟩
  exact yields found

/-- Committing changes no value. -/
protected theorem commit {reader : Reader α} {good : α → Prop} (yields : reader.Yields good) :
    reader.commit.Yields good :=
  fun _ _ _ accepted => yields (commit_accepts accepted)

/-- A remark changes no value. -/
protected theorem remarking {reader : Reader α} {good : α → Prop} (yields : reader.Yields good)
    (remark : Remark) : (remarking remark reader).Yields good :=
  fun _ _ _ accepted => yields (remarking_accepts accepted)

/-- A check may turn what is yielded into something better. -/
protected theorem checked {reader : Reader α} {check : α → Except (Option Pattern.Fault) β}
    {good : α → Prop} {better : β → Prop} (yields : reader.Yields good)
    (passes : ∀ value result, good value → check value = .ok result → better result) :
    (reader.checked check).Yields better := by
  intro input result rest accepted
  obtain ⟨value, found, passed⟩ := checked_accepts accepted
  exact passes value result (yields found) passed

/-- A repetition yields values that are all of the kind. -/
protected theorem many {reader : Reader α} {good : α → Prop} (yields : reader.Yields good)
    (consumes : reader.Consumes) :
    (many reader consumes).Yields fun values => ∀ value ∈ values, good value := by
  intro input values rest accepted
  have row := (many_accepts accepted).1
  clear accepted
  induction row with
  | stay => simp
  | step found _ inductionHypothesis =>
    intro value member
    rcases List.mem_cons.mp member with rfl | inOthers
    · exact yields found
    · exact inductionHypothesis value inOthers

end Yields

end Reader

/-! ### Names and literals -/

/-- A name that has been read is an identifier. -/
theorem identifier_yields : identifier.Yields fun name => isIdentifier name = true := by
  intro input name rest accepted
  obtain ⟨first, middle, firstRead, laterRead⟩ := bind_accepts accepted
  obtain ⟨others, last, othersRead, given⟩ := bind_accepts laterRead
  cases given
  obtain ⟨_, start⟩ := charWhere_accepts firstRead
  obtain ⟨_, parts, _⟩ := run_accepts othersRead
  simp only [isIdentifier, String.toList_ofList, Bool.and_eq_true, List.all_eq_true]
  exact ⟨start, parts⟩

/-- A number that has been read has no sign. -/
theorem number_yields : number.Yields fun value => value.isNormal = true := by
  refine Yields.remarking (Yields.checked (.any _) ?_) _
  intro digits value _ passes
  split at passes
  · rename_i found meaning
    cases passes
    exact numberValue_normal meaning
  · cases passes

/-! ### Operators and selectors -/

/-- No sign stands for `matches`, which is a word. -/
theorem signOf_yields {operator : BinaryOperator} (differs : operator ≠ .matching) :
    (signOf operator).Yields fun joint => joint ≠ .matching :=
  .behind fun _ => .pure differs

/-- A selector that is read can be written. -/
theorem selector_yields : selector.Yields fun target => target.isPrintable = true := by
  have argument : selectorArgument.Yields fun name => isIdentifier name = true :=
    .behind fun _ => .behind fun _ => identifier_yields.bind fun _ isName =>
      .behind fun _ => .pure isName
  refine .behind fun _ => .remarking ?_ _
  exact .orElse (.behind fun _ => .pure rfl) <|
    .orElse (.behind fun _ => argument.commit.bind fun _ isName => .pure isName) <|
      .orElse (.behind fun _ => argument.commit.bind fun _ isName => .pure isName)
        (.behind fun _ => argument.commit.bind fun _ isName => .pure isName)

/-- There is at least one selector, and all of them can be written. -/
theorem selectors_yields : selectors.Yields fun targets =>
    targets ≠ [] ∧ ∀ target ∈ targets, target.isPrintable = true := by
  have further : furtherSelector.Yields fun target => target.isPrintable = true :=
    .behind fun _ => .behind fun _ => selector_yields.commit
  refine selector_yields.commit.bind fun first firstPrintable =>
    (further.many _).bind fun others othersPrintable => .pure ⟨by simp, ?_⟩
  intro target member
  rcases List.mem_cons.mp member with rfl | inOthers
  · exact firstPrintable
  · exact othersPrintable target inOthers

/-! ### Expressions -/

variable [RegexEngine]

/-- A name that is none of the two truth values means something that can be written. -/
theorem plainName_normal {name : String} (isName : isIdentifier name = true)
    (notTrue : name ≠ "true") (notFalse : name ≠ "false") :
    (plainName name).isNormal = true := by
  unfold plainName
  split
  · rfl
  · rename_i noState
    simp [Expr.isNormal, isBareName, isName, notTrue, notFalse, noState]

section Levels

variable {inner : Reader Expr} (yields : inner.Yields fun expr => expr.isNormal = true)

include yields

/-- What is asked of related nodes is normal if its condition is. -/
theorem relationRest_yields (relation : Relation) :
    (relationRest inner relation).Yields fun expr => expr.isNormal = true := by
  refine .behind fun _ => .behind fun question => ?_
  cases question with
  | none => exact .pure rfl
  | some quantifier =>
    exact .behind fun _ => yields.bind fun _ normal => .behind fun _ => .pure normal

/-- What begins with a name is normal if the name has no other meaning. -/
theorem relationOrName_yields {name : String} (isName : isIdentifier name = true)
    (notTrue : name ≠ "true") (notFalse : name ≠ "false") :
    (relationOrName inner name).Yields fun expr => expr.isNormal = true := by
  unfold relationOrName
  split
  · exact .pure (plainName_normal isName notTrue notFalse)
  · rename_i relation _
    refine .behind fun choice => ?_
    cases choice with
    | none => exact .pure (plainName_normal isName notTrue notFalse)
    | some _ => exact (relationRest_yields yields relation).commit

/-- What begins with a word is normal: the words with a meaning have been told apart before. -/
theorem named_yields : (named inner).Yields fun expr => expr.isNormal = true := by
  refine identifier_yields.bind fun name isName => ?_
  split
  · exact .pure rfl
  rename_i notTrue
  split
  · exact .pure rfl
  rename_i notFalse
  split
  · refine .behind fun choice => ?_
    cases choice with
    | none => exact relationOrName_yields yields isName notTrue notFalse
    | some _ => exact .commit (.behind fun _ => .behind fun _ => .pure rfl)
  · exact relationOrName_yields yields isName notTrue notFalse

/-- An operand is normal if what stands between its parentheses is. -/
theorem primary_yields : (primary inner).Yields fun expr => expr.isNormal = true := by
  have enclosed : (parenthesized inner).Yields fun expr => expr.isNormal = true :=
    .behind fun _ => yields.commit.bind fun _ normal => .behind fun _ => .pure normal
  refine .behind fun _ => .remarking ?_ _
  exact enclosed.orElse <| .orElse (.behind fun _ => .pure rfl) <|
    .orElse (number_yields.bind fun _ normal => .pure normal) (named_yields yields)

omit yields in
/-- Signs in front leave an operand as normal as it is. -/
theorem foldr_unary_normal (signs : List UnaryOperator) (operand : Expr) :
    (signs.foldr .unary operand).isNormal = operand.isNormal := by
  induction signs with
  | nil => rfl
  | cons sign others inductionHypothesis => exact inductionHypothesis

/-- An operand with signs in front is normal if what stands between its parentheses is. -/
theorem signed_yields : (signed inner).Yields fun expr => expr.isNormal = true := by
  have operand : ∀ row : List UnaryOperator, ∀ expr : Expr, expr.isNormal = true →
      (row.foldr .unary expr).isNormal = true := by
    intro row expr normal
    rw [foldr_unary_normal, normal]
  refine .behind fun row => ?_
  dsimp only
  split
  · exact (primary_yields yields).bind fun _ normal => .pure (operand row _ normal)
  · exact ((primary_yields yields).commit.remarking _).bind fun _ normal =>
      .pure (operand row _ normal)

omit yields in
/-- A level of operators other than `matches` joins normal operands to a normal expression. -/
theorem chain_yields {operand : Reader Expr} {operator : Reader BinaryOperator}
    (yields : operand.Yields fun expr => expr.isNormal = true)
    (noMatching : operator.Yields fun joint => joint ≠ .matching)
    (consumes : operator.Consumes) :
    (chain operand operator consumes).Yields fun expr => expr.isNormal = true := by
  have step : (chainStep operand operator).Yields fun other =>
      other.1 ≠ .matching ∧ other.2.isNormal = true :=
    .behind fun _ => noMatching.bind fun _ differs => yields.commit.bind fun _ normal =>
      .pure ⟨differs, normal⟩
  refine yields.bind fun first firstNormal => (step.many _).bind fun others othersNormal => ?_
  refine .pure ?_
  induction others generalizing first with
  | nil => exact firstNormal
  | cons other later inductionHypothesis =>
    obtain ⟨differs, normal⟩ := othersNormal other List.mem_cons_self
    refine inductionHypothesis _ ?_ fun next member =>
      othersNormal next (List.mem_cons_of_mem _ member)
    simp [Expr.isNormal, firstNormal, normal, differs]

/-- Products, sums and comparisons are normal if their operands are. -/
theorem comparison_yields : (comparison inner).Yields fun expr => expr.isNormal = true := by
  have productOperator : productSign.Yields fun joint => joint ≠ .matching :=
    (signOf_yields (by decide)).orElse (signOf_yields (by decide))
  have sumOperator : sumSign.Yields fun joint => joint ≠ .matching :=
    (signOf_yields (by decide)).orElse (signOf_yields (by decide))
  have orderOperator : orderSign.Yields fun joint => joint ≠ .matching :=
    (signOf_yields (by decide)).orElse <| (signOf_yields (by decide)).orElse <|
      (signOf_yields (by decide)).orElse (signOf_yields (by decide))
  exact chain_yields (chain_yields (chain_yields (signed_yields yields) productOperator _)
    sumOperator _) orderOperator _

omit yields in
/-- What stands behind `matches` makes a normal expression of one on its left. -/
theorem matchOperand_normal {operand : Expr} (normal : operand.isNormal = true)
    {step : Expr → Expr} (passes : matchOperand operand = .ok step) {left : Expr}
    (leftNormal : left.isNormal = true) : (step left).isNormal = true := by
  unfold matchOperand at passes
  split at passes
  · split at passes <;> cases passes
    exact leftNormal
  · rename_i noText
    cases passes
    have plain : operand.isText = false := by
      unfold Expr.isText
      split
      · rename_i source
        exact absurd rfl (noText source)
      · rfl
    simp [Expr.isNormal, leftNormal, normal, plain]

/-- A further operand of an equality keeps what stands on its left normal, and a pattern has been
compiled. -/
theorem equalityStep_yields : (equalityStep inner).Yields fun step =>
    ∀ left : Expr, left.isNormal = true → (step left).isNormal = true := by
  refine .behind fun _ => .behind fun operator => ?_
  split
  · refine .remarking (.commit (.behind fun _ => (comparison_yields yields).checked ?_)) _
    intro operand step normal passes left leftNormal
    exact matchOperand_normal normal passes leftNormal
  · rename_i differs
    refine (comparison_yields yields).commit.bind fun right normal => .pure ?_
    intro left leftNormal
    simp [Expr.isNormal, leftNormal, normal, differs]

/-- Every step of the level of equality keeps what stands on its left normal. -/
theorem equality_yields : (equality inner).Yields fun expr => expr.isNormal = true := by
  refine (comparison_yields yields).bind fun first firstNormal =>
    ((equalityStep_yields yields).many _).bind fun steps stepsNormal => .pure ?_
  induction steps generalizing first with
  | nil => exact firstNormal
  | cons step later inductionHypothesis =>
    refine inductionHypothesis _ ?_ fun next member =>
      stepsNormal next (List.mem_cons_of_mem _ member)
    exact stepsNormal step List.mem_cons_self first firstNormal

/-- A whole expression is normal if those between its parentheses are. -/
theorem disjunction_yields : (disjunction inner).Yields fun expr => expr.isNormal = true :=
  chain_yields (chain_yields (equality_yields yields) (signOf_yields (by decide)) _)
    (signOf_yields (by decide)) _

end Levels

/-- Every expression that is read can be written. -/
theorem expression_yields (depth : Nat) :
    (expression depth).Yields fun expr => expr.isNormal = true := by
  induction depth with
  | zero =>
    refine disjunction_yields ?_
    rintro _ _ _ ⟨⟩
  | succ depth inductionHypothesis => exact disjunction_yields inductionHypothesis

/-! ### Rules -/

/-- The expression of a clause can be written. -/
theorem clause_yields (depth : Nat) (word : String) :
    (clause depth word).Yields fun expr => expr.isNormal = true :=
  .behind fun _ => .behind fun _ => .commit (.behind fun _ => expression_yields depth)

end Grammar

end WidgetAudit
