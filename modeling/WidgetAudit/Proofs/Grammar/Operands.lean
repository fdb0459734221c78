import WidgetAudit.Proofs.Grammar.Following
import WidgetAudit.Proofs.Number.Decimal

/-!
# What operands read

An operand without a sign is a literal, begins with a name, or stands between parentheses,
and its first character tells which. Each kind is read back here in front of whatever may
follow an expression. The two kinds that hold an expression inside are read back as long as
that expression is, which is left to the reader that stands for it.
-/

namespace WidgetAudit.Grammar

open Reader

variable {following : List Char}

/-! ### The first character -/

/-- The first character of an identifier begins a name. -/
theorem starts_of_isIdentifier {name : String} (isName : isIdentifier name = true) :
    ∃ first later, name.toList = first :: later ∧ isNameStart first = true := by
  unfold isIdentifier at isName
  split at isName
  · cases isName
  · rename_i first later form
    exact ⟨first, later, form, (Bool.and_eq_true_iff.mp isName).1⟩

/-- An identifier is solid. -/
theorem isSolid_of_isIdentifier {name : String} (isName : isIdentifier name = true)
    (later : List Char) : IsSolid (name.toList ++ later) := by
  obtain ⟨first, others, form, start⟩ := starts_of_isIdentifier isName
  rw [form]
  exact isSolid_of_isNameStart start _

/-- A quoted text is solid. -/
theorem isSolid_quoted (content later : List Char) :
    IsSolid (Quoted.written content ++ later) := by
  change IsSolid ('"' :: (content.flatMap Quoted.escaped ++ ['"'] ++ later))
  exact isSolid_cons rfl _

/-- A character that begins a name begins no number. -/
theorem isDigit_of_isNameStart {char : Char} (start : isNameStart char = true) :
    char.isDigit = false := by
  rw [Bool.eq_false_iff]
  intro digit
  have underscore : char ≠ '_' := by
    rintro rfl
    exact absurd digit (by decide)
  unfold isNameStart Char.isAlpha Char.isUpper Char.isLower at start
  unfold Char.isDigit at digit
  simp only [underscore, beq_iff_eq, Bool.or_eq_true, Bool.and_eq_true, decide_eq_true_eq,
    or_false, UInt32.le_iff_toNat_le, ge_iff_le] at start digit
  change (65 ≤ char.toNat ∧ char.toNat ≤ 90) ∨ (97 ≤ char.toNat ∧ char.toNat ≤ 122) at start
  change 48 ≤ char.toNat ∧ char.toNat ≤ 57 at digit
  omega

/-- The characters with which an operand without a sign begins. -/
def opensOperand (char : Char) : Bool :=
  isNamePart char || char == '"' || char == '('

/-- Behind the beginning of an operand no layout is read. -/
theorem isSolid_of_opensOperand {char : Char} (opens : opensOperand char = true)
    (later : List Char) : IsSolid (char :: later) := by
  simp only [opensOperand, Bool.or_eq_true, beq_iff_eq] at opens
  rcases opens with (part | rfl) | rfl
  · exact isSolid_of_isNamePart part later
  · exact isSolid_cons rfl later
  · exact isSolid_cons rfl later

/-! ### What stands behind a property -/

/-- A quantifier's word is read in front of its parenthesis. -/
theorem read_quantifier (quantifier : Quantifier) (later : List Char) :
    relationQuestion.read (quantifier.word.toList ++ '(' :: later) =
      .ok (some quantifier, '(' :: later) := by
  cases quantifier <;> rfl

/-- The target of a cast is read if its word ends there. -/
theorem read_castTarget (target : CastTarget) (ends : EndsName following) :
    castTarget.read (target.word.toList ++ following) = .ok (target, following) := by
  cases target with
  | int => exact read_orElse (read_map (read_keyword (by decide) ends) _) _
  | string =>
    have noInt : (keyword "int").Declines ("string".toList ++ following) :=
      declines_keyword_of_name (by decide) (by decide) ends
    exact ((noInt.bind _).read_orElse _).trans
      (read_orElse (read_map (read_keyword (by decide) ends) _) _)
  | bool =>
    have noInt : (keyword "int").Declines ("bool".toList ++ following) :=
      declines_keyword_of_name (by decide) (by decide) ends
    have noString : (keyword "string").Declines ("bool".toList ++ following) :=
      declines_keyword_of_name (by decide) (by decide) ends
    exact ((noInt.bind _).read_orElse _).trans (((noString.bind _).read_orElse _).trans
      (read_map (read_keyword (by decide) ends) _))

/-- A cast is read behind its property. -/
theorem read_cast (target : CastTarget) (ends : EndsName following) :
    propertySuffix.read (' ' :: ("as".toList ++ ' ' :: (target.word.toList ++ following))) =
      .ok (.cast target, following) := by
  have solid : IsSolid ("as".toList ++ ' ' :: (target.word.toList ++ following)) :=
    isSolid_of_isIdentifier (by decide) _
  have targetSolid : IsSolid (target.word.toList ++ following) := by
    cases target <;> exact isSolid_of_isNameStart (by decide) _
  have noPoint : (sign '.').Declines
      (' ' :: ("as".toList ++ ' ' :: (target.word.toList ++ following))) :=
    declines_sign (read_layout_space solid) (avoids_cons rfl _)
  have word : (keyword "as").read ("as".toList ++ ' ' :: (target.word.toList ++ following)) =
      .ok ((), ' ' :: (target.word.toList ++ following)) :=
    read_keyword (by decide) (endsName_space _)
  have behind : (layout >>= fun _ => castTarget).read
      (' ' :: (target.word.toList ++ following)) = .ok (target, following) := by
    rw [read_bind (read_layout_space targetSolid), read_castTarget target ends]
  refine ((noPoint.bind _).read_orElse _).trans ?_
  rw [read_bind (read_layout_space solid), read_bind word, read_map (read_commit behind)]

/-- The question whether a property has a value is read behind it. -/
theorem read_isResolved (ends : EndsName following) :
    propertySuffix.read ('.' :: ("is_resolved".toList ++ following)) =
      .ok (.isResolved, following) := by
  have solid : IsSolid ('.' :: ("is_resolved".toList ++ following)) := isSolid_cons rfl _
  have point : (sign '.').read ('.' :: ("is_resolved".toList ++ following)) =
      .ok ((), "is_resolved".toList ++ following) := read_sign (read_layout_solid solid)
  have word : (keyword "is_resolved").read ("is_resolved".toList ++ following) =
      .ok ((), following) := read_keyword (by decide) ends
  refine read_orElse ?_ _
  rw [read_bind point, read_map (read_commit word)]

/-- The way of reading a property is read from what is written behind it. -/
theorem read_propertySuffix {level : Nat} (follows : Follows level following)
    (access : PropertyAccess) :
    ∃ suffix, (optional propertySuffix).read (access.written ++ following) =
      .ok (suffix, following) ∧ suffix.getD .raw = access := by
  cases access with
  | raw => exact ⟨none, follows.declines_propertySuffix.read_optional, rfl⟩
  | cast target =>
    exact ⟨some (.cast target), read_optional (read_cast target follows.endsName), rfl⟩
  | isResolved =>
    exact ⟨some .isResolved, read_optional (read_isResolved follows.endsName), rfl⟩

/-! ### Numbers -/

/-- A whole number without a sign is written as its digits. -/
theorem written_int {number : Int64} (positive : 0 ≤ number.toInt) :
    (Value.int number).written = Nat.toDigits 10 number.toInt.toNat := by
  obtain ⟨count, counted⟩ := Int.eq_ofNat_of_zero_le positive
  have text : toString number.toInt = count.repr := by
    rw [counted]
    rfl
  change (toString number.toInt).toList = _
  rw [text, Nat.toList_repr, counted, Int.toNat_natCast]

/-- The digits of a whole number of 64 bits mean that number. -/
theorem numberValue_whole {number : Int64} (positive : 0 ≤ number.toInt) :
    numberValue (Nat.toDigits 10 number.toInt.toNat) none = some (.int number) := by
  have fits : int64? (Numeral.natural (Nat.toDigits 10 number.toInt.toNat)) = some number := by
    rw [Numeral.natural_toDigits, Int.toNat_of_nonneg positive, int64?_toInt]
  -- The test for 64 bits must not be computed: its bounds are too large to count up to.
  generalize absent : (none : Option (List Char)) = places
  fun_cases numberValue (Nat.toDigits 10 number.toInt.toNat) places with
  | case1 => cases absent
  | case2 found meant => rw [Option.some.inj (meant.symm.trans fits)]
  | case3 float missing => cases missing.symm.trans fits

/-- The digits of a finite number mean that number. -/
theorem numberValue_fraction {whole places : List Char} {significand : Nat} {exponent : Int}
    {canonical : IsCanonical significand exponent}
    (writes : Shortest.Writes whole places (.finite false significand exponent canonical)) :
    numberValue whole (some places) =
      some (.float (.finite false significand exponent canonical)) := by
  unfold numberValue
  dsimp only
  rw [writes.reads]
  rfl

/-- A number that can be written begins with a digit. -/
theorem digit_starts_number {value : Value} (normal : value.isNormal = true)
    (isNumber : (∃ number, value = .int number) ∨ ∃ number, value = .float number) :
    ∃ digit later, value.written = digit :: later ∧ digit.isDigit = true := by
  rcases isNumber with ⟨number, rfl⟩ | ⟨number, rfl⟩
  · rw [written_int (of_decide_eq_true normal)]
    obtain ⟨digit, later, form⟩ := List.exists_cons_of_ne_nil
      (Nat.toDigits_ne_nil (n := number.toInt.toNat) (b := 10))
    have member : digit ∈ Nat.toDigits 10 number.toInt.toNat := by
      rw [form]
      exact List.mem_cons_self
    exact ⟨digit, later, form, Shortest.isDigit_of_mem_toDigits digit member⟩
  · cases number with
    | nan => cases normal
    | infinite negative => cases normal
    | finite negative significand exponent canonical =>
      obtain rfl : negative = false := by simpa [Value.isNormal] using normal
      obtain ⟨whole, places, form, writes⟩ := Value.written_float canonical
      obtain ⟨digit, later, rfl⟩ := List.exists_cons_of_ne_nil writes.whole_nonempty
      exact ⟨digit, _, form, writes.whole_digits digit List.mem_cons_self⟩

/-- A number is read from its written form. -/
theorem read_number_written {value : Value} (normal : value.isNormal = true)
    (isNumber : (∃ number, value = .int number) ∨ ∃ number, value = .float number)
    (ends : EndsNumber following) :
    number.read (value.written ++ following) = .ok (value, following) := by
  rcases isNumber with ⟨number, rfl⟩ | ⟨number, rfl⟩
  · have positive : 0 ≤ number.toInt := of_decide_eq_true normal
    rw [written_int positive]
    exact read_number_whole Nat.toDigits_ne_nil Shortest.isDigit_of_mem_toDigits
      (numberValue_whole positive) ends
  · cases number with
    | nan => cases normal
    | infinite negative => cases normal
    | finite negative significand exponent canonical =>
      obtain rfl : negative = false := by simpa [Value.isNormal] using normal
      obtain ⟨whole, places, form, writes⟩ := Value.written_float canonical
      rw [form, List.append_assoc, List.cons_append]
      exact read_number_fraction writes.whole_nonempty writes.whole_digits
        writes.places_nonempty writes.places_digits (numberValue_fraction writes) ends

/-! ### The alternatives -/

variable [RegexEngine]

/-- The alternatives of an operand, behind its layout. -/
def operand (inner : Reader Expr) : Reader Expr :=
  parenthesized inner <|>
    (do let content ← quoted; return .literal (.string content)) <|>
    (do let value ← number; return .literal value) <|>
    named inner

section Operands

variable {inner : Reader Expr} {gap : List Char}

/-- An operand is read behind blanks. -/
theorem read_primary (blank : IsGap gap) {input rest : List Char} (solid : IsSolid input)
    {value : Expr}
    (read : (operand inner).read input = .ok (value, rest)) :
    (primary inner).read (gap ++ input) = .ok (value, rest) := by
  rw [primary, read_bind (read_layout blank solid)]
  exact read_remarking read _

/-- Without an opening parenthesis there is no expression in parentheses. -/
theorem declines_parenthesized {input : List Char} (other : Avoids (· == '(') input) :
    (parenthesized inner).Declines input := (declines_char other).bind _

/-- A parenthesis opens an expression that is read between it and the closing one. -/
theorem read_parenthesized {input : List Char} {value : Expr}
    (read : inner.read input = .ok (value, ')' :: following)) :
    (operand inner).read ('(' :: input) = .ok (value, following) := by
  have solid : IsSolid (')' :: following) := isSolid_cons rfl following
  have closed : (sign ')').read (')' :: following) = .ok ((), following) :=
    read_sign (read_layout_solid solid)
  refine read_orElse ?_ _
  rw [parenthesized, read_bind (read_char '(' input), read_bind (read_commit read),
    read_map (read_commit closed)]

/-- A quote begins a text. -/
theorem read_text_operand (content : String) (following : List Char) :
    (operand inner).read (Quoted.written content.toList ++ following) =
      .ok (.literal (.string content), following) := by
  have noParenthesis : (parenthesized inner).Declines
      (Quoted.written content.toList ++ following) := declines_parenthesized (avoids_cons rfl _)
  rw [operand, noParenthesis.read_orElse]
  exact read_orElse (read_map (read_quoted content following) _) _

/-- A digit begins a number. -/
theorem read_number_operand {input rest : List Char} {value : Value}
    (begins : ∃ digit later, input = digit :: later ∧ digit.isDigit = true)
    (read : number.read input = .ok (value, rest)) :
    (operand inner).read input = .ok (.literal value, rest) := by
  obtain ⟨digit, later, rfl, isDigit⟩ := begins
  have noParenthesis : (parenthesized inner).Declines (digit :: later) :=
    declines_parenthesized (avoids_other isDigit (by decide) later)
  have noText : quoted.Declines (digit :: later) :=
    declines_quoted (avoids_other isDigit (by decide) later)
  rw [operand, noParenthesis.read_orElse, (noText.bind _).read_orElse]
  exact read_orElse (read_map read _) _

/-- What is read behind a name. -/
def behindName (inner : Reader Expr) (name : String) : Reader Expr :=
  if name = "true" then return .literal (.bool true)
  else if name = "false" then return .literal (.bool false)
  else if name = "prop" then do
    match ← optional (sign '(') with
    | some _ => commit propertyRest
    | none => relationOrName inner name
  else relationOrName inner name

/-- An operand that begins with a name is what stands behind the name. -/
theorem read_name_operand (name : String) (isName : isIdentifier name = true)
    {input rest : List Char} (ends : EndsName input) {value : Expr}
    (read : (behindName inner name).read input = .ok (value, rest)) :
    (operand inner).read (name.toList ++ input) = .ok (value, rest) := by
  have nameRead := read_identifier isName ends
  obtain ⟨first, later, form, start⟩ := starts_of_isIdentifier isName
  rw [form, List.cons_append] at nameRead ⊢
  have noParenthesis : (parenthesized inner).Declines (first :: (later ++ input)) :=
    declines_parenthesized (avoids_other start (by decide) _)
  have noText : quoted.Declines (first :: (later ++ input)) :=
    declines_quoted (avoids_other start (by decide) _)
  have noNumber : number.Declines (first :: (later ++ input)) :=
    declines_number (avoids_cons (isDigit_of_isNameStart start) _)
  rw [operand, noParenthesis.read_orElse, (noText.bind _).read_orElse,
    (noNumber.bind _).read_orElse, named, read_bind nameRead]
  exact read

/-! ### Names -/

/-- A name is plain in front of what may follow an expression, whether or not it is also a
word that could begin something longer. -/
theorem read_plain_name {level : Nat} (follows : Follows level following) {name : String}
    (notTrue : name ≠ "true") (notFalse : name ≠ "false") :
    (behindName inner name).read following = .ok (plainName name, following) := by
  have noPoint := (follows.declines_sign (.inl rfl)).read_optional
  have noParenthesis := (follows.declines_sign (.inr rfl)).read_optional
  have plain : (relationOrName inner name).read following = .ok (plainName name, following) := by
    unfold relationOrName
    split
    · rfl
    · rw [read_bind noPoint]
      rfl
  unfold behindName
  rw [if_neg notTrue, if_neg notFalse]
  split
  · rw [read_bind noParenthesis]
    exact plain
  · exact plain

/-- A point behind the word of a relation asks a question about the related nodes. -/
theorem read_relation (relation : Relation) {input rest : List Char} {value : Expr}
    (read : (relationRest inner relation).read input = .ok (value, rest)) :
    (operand inner).read (relation.word.toList ++ '.' :: input) = .ok (value, rest) := by
  have solid : IsSolid ('.' :: input) := isSolid_cons rfl input
  have point : (sign '.').read ('.' :: input) = .ok ((), input) :=
    read_sign (read_layout_solid solid)
  have isName : isIdentifier relation.word = true := by cases relation <;> decide
  have isOther : relation.word ≠ "true" ∧ relation.word ≠ "false" ∧ relation.word ≠ "prop" := by
    cases relation <;> decide
  refine read_name_operand _ isName (endsName_cons (by decide) input) ?_
  rw [behindName, if_neg isOther.1, if_neg isOther.2.1, if_neg isOther.2.2, relationOrName,
    Relation.ofWord?_word]
  change (optional (sign '.') >>= _).read _ = _
  rw [read_bind (read_optional point)]
  exact read_commit read

/-- The number of related nodes is asked for by a word alone. -/
theorem read_count (relation : Relation) (ends : EndsName following) :
    (relationRest inner relation).read ("length".toList ++ following) =
      .ok (.count relation, following) := by
  have solid : IsSolid ("length".toList ++ following) :=
    isSolid_of_isIdentifier (by decide) _
  have word : relationQuestion.read ("length".toList ++ following) = .ok (none, following) :=
    read_orElse (read_map (read_keyword (by decide) ends) fun _ => none) _
  rw [relationRest, read_bind (read_layout_solid solid), read_bind word]
  rfl

/-- A quantifier holds an expression in parentheses. -/
theorem read_quantified (relation : Relation) (quantifier : Quantifier) {input : List Char}
    {value : Expr} (read : inner.read input = .ok (value, ')' :: following)) :
    (relationRest inner relation).read (quantifier.word.toList ++ '(' :: input) =
      .ok (.quantified relation quantifier value, following) := by
  have solid : IsSolid (quantifier.word.toList ++ '(' :: input) := by
    cases quantifier <;> exact isSolid_of_isNameStart (by decide) _
  have opens : IsSolid ('(' :: input) := isSolid_cons rfl input
  have closes : IsSolid (')' :: following) := isSolid_cons rfl following
  rw [relationRest, read_bind (read_layout_solid solid),
    read_bind (read_quantifier quantifier input)]
  change (sign '(' >>= fun _ => inner >>= _).read _ = _
  rw [read_bind (read_sign (read_layout_solid opens)), read_bind read,
    read_map (read_sign (read_layout_solid closes))]

/-! ### Properties -/

/-- A property is read with the way of reading it. -/
theorem read_property {level : Nat} (follows : Follows level following) (key : String)
    (access : PropertyAccess) :
    (operand inner).read ((Expr.property key access).written ++ following) =
      .ok (.property key access, following) := by
  obtain ⟨suffix, suffixRead, same⟩ := read_propertySuffix follows access
  have form : (Expr.property key access).written ++ following =
      "prop".toList ++ '(' :: (Quoted.written key.toList ++ ')' ::
        (access.written ++ following)) := by
    simp [Expr.written]
  have opens : IsSolid ('(' :: (Quoted.written key.toList ++ ')' ::
      (access.written ++ following))) := isSolid_cons rfl _
  have quotes : IsSolid (Quoted.written key.toList ++ ')' :: (access.written ++ following)) :=
    isSolid_quoted key.toList _
  have closes : IsSolid (')' :: (access.written ++ following)) := isSolid_cons rfl _
  have name : (do layout; let name ← quoted; sign ')'; return name : Reader String).read
      (Quoted.written key.toList ++ ')' :: (access.written ++ following)) =
      .ok (key, access.written ++ following) := by
    rw [read_bind (read_layout_solid quotes), read_bind (read_quoted key _),
      read_map (read_sign (read_layout_solid closes))]
  have rest : propertyRest.read (Quoted.written key.toList ++ ')' ::
      (access.written ++ following)) = .ok (.property key access, following) := by
    rw [propertyRest, read_bind (read_remarking name _), read_map suffixRead, same]
  rw [form]
  refine read_name_operand "prop" (by decide) (endsName_cons (by decide) _) ?_
  rw [behindName, if_neg (by decide), if_neg (by decide), if_pos rfl,
    read_bind (read_optional (read_sign (read_layout_solid opens)))]
  exact read_commit rest

/-! ### Literals -/

/-- A literal is read from its written form. -/
theorem read_literal {level : Nat} (follows : Follows level following) {value : Value}
    (normal : value.isNormal = true) :
    (operand inner).read (value.written ++ following) = .ok (.literal value, following) := by
  have readNumber : ((∃ number, value = .int number) ∨ ∃ number, value = .float number) →
      (operand inner).read (value.written ++ following) = .ok (.literal value, following) := by
    intro isNumber
    obtain ⟨digit, later, form, isDigit⟩ := digit_starts_number normal isNumber
    have begins : ∃ first others, value.written ++ following = first :: others ∧
        first.isDigit = true := ⟨digit, later ++ following, by rw [form]; rfl, isDigit⟩
    exact read_number_operand begins (read_number_written normal isNumber follows.endsNumber)
  cases value with
  | null => cases normal
  | bool truth =>
    cases truth with
    | true => exact read_name_operand "true" (by decide) follows.endsName rfl
    | false => exact read_name_operand "false" (by decide) follows.endsName rfl
  | int number => exact readNumber (.inl ⟨number, rfl⟩)
  | float number => exact readNumber (.inr ⟨number, rfl⟩)
  | string content => exact read_text_operand content following

/-! ### Leaves -/

/-- The first character of a leaf begins an operand. -/
theorem leaf_opens {form : Leaf} (normal : form.expr.isNormal = true) :
    ∃ first later, form.expr.written = first :: later ∧ opensOperand first = true := by
  cases form with
  | literal value =>
    have number : ((∃ number, value = .int number) ∨ ∃ number, value = .float number) →
        ∃ first later, value.written = first :: later ∧ opensOperand first = true := by
      intro isNumber
      obtain ⟨digit, later, form, isDigit⟩ := digit_starts_number normal isNumber
      exact ⟨digit, later, form, by simp [opensOperand, isNamePart, Char.isAlphanum, isDigit]⟩
    cases value with
    | null => cases normal
    | bool truth => cases truth <;> exact ⟨_, _, rfl, by decide⟩
    | int count => exact number (.inl ⟨count, rfl⟩)
    | float count => exact number (.inr ⟨count, rfl⟩)
    | string content => exact ⟨'"', _, rfl, by decide⟩
  | state fact => cases fact <;> exact ⟨_, _, rfl, by decide⟩
  | property key access => exact ⟨'p', _, rfl, by decide⟩
  | name identifier =>
    simp only [Leaf.expr, Expr.isNormal, isBareName, Bool.and_eq_true] at normal
    obtain ⟨first, later, form, start⟩ := starts_of_isIdentifier normal.1.1.1
    exact ⟨first, later, form, by simp [opensOperand, isNamePart_of_isNameStart start]⟩
  | count relation => cases relation <;> exact ⟨_, _, rfl, by decide⟩

/-- A leaf is read from its written form. -/
theorem read_leaf {level : Nat} (follows : Follows level following) {form : Leaf}
    (normal : form.expr.isNormal = true) :
    (operand inner).read (form.expr.written ++ following) = .ok (form.expr, following) := by
  cases form with
  | literal value => exact read_literal follows normal
  | state fact =>
    have isName : isIdentifier fact.word = true := by cases fact <;> decide
    have isOther : fact.word ≠ "true" ∧ fact.word ≠ "false" := by cases fact <;> decide
    have meaning : plainName fact.word = .state fact := by
      rw [plainName, NodeState.ofWord?_word]
    refine read_name_operand _ isName follows.endsName ?_
    rw [read_plain_name follows isOther.1 isOther.2, meaning]
    rfl
  | property key access => exact read_property follows key access
  | name identifier =>
    simp only [Leaf.expr, Expr.isNormal, isBareName, Bool.and_eq_true, bne_iff_ne,
      Option.isNone_iff_eq_none] at normal
    obtain ⟨⟨⟨isName, notTrue⟩, notFalse⟩, noState⟩ := normal
    have meaning : plainName identifier = .name identifier := by
      rw [plainName, noState]
    refine read_name_operand _ isName follows.endsName ?_
    rw [read_plain_name follows notTrue notFalse, meaning]
    rfl
  | count relation =>
    have form : (Leaf.count relation).expr.written ++ following =
        relation.word.toList ++ '.' :: ("length".toList ++ following) := by
      simp [Leaf.expr, Expr.written]
    rw [form]
    exact read_relation relation (read_count relation follows.endsName)

end Operands

end WidgetAudit.Grammar
