import WidgetAudit.Proofs.Grammar.WholeTexts

/-!
# The tokens of a text

The grammar has no list of tokens: each of its readers takes characters off the text. Tokens are
described here apart from it, as names, numbers, quoted texts and signs, each as long as the text
allows. With each kind of token goes a property of texts that says where a token of that kind ends:
a name in front of everything that does not continue it, a quoted text in front of everything.

Every text of rules is made of tokens and of layout between them. This is read off the passage
that a text of rules is, and so it needs none of the readers.
-/

namespace WidgetAudit.Grammar

open Reader
open Source (Passage isBracket)

/-! ### Tokens -/

/-- The signs of two characters. -/
def signPairs : List (Char × Char) :=
  [('|', '|'), ('&', '&'), ('=', '='), ('!', '='), ('~', '='), ('<', '='), ('>', '=')]

/-- Whether a character goes on in the one behind it: both are one sign, or they begin a
comment. -/
def joins (first second : Char) : Bool :=
  signPairs.contains (first, second) || first == '/' && second == '/'

/-- Whether a character stands for itself: it begins no name, no literal and no layout. -/
def isSign (char : Char) : Bool :=
  !isNameStart char && !char.isDigit && char != '"' && !Text.isBlank char && char != '#'

/-- Whole digits end in front of what is neither a digit nor a point with a digit behind it. -/
def EndsWhole (behind : List Char) : Prop :=
  Avoids Char.isDigit behind ∧ ∀ later, behind = '.' :: later → Avoids Char.isDigit later

/-- A text is a token in front of those texts where it ends. -/
inductive IsToken : (token : List Char) → (ends : List Char → Prop) → Prop
  | name {first : Char} {others : List Char} (start : isNameStart first = true)
      (parts : ∀ char ∈ others, isNamePart char = true) :
      IsToken (first :: others) (Avoids isNamePart)
  | whole {digits : List Char} (nonempty : digits ≠ [])
      (areDigits : ∀ char ∈ digits, char.isDigit = true) : IsToken digits EndsWhole
  | fraction {whole places : List Char} (nonempty : whole ≠ [])
      (areDigits : ∀ char ∈ whole, char.isDigit = true) (placesNonempty : places ≠ [])
      (placesAreDigits : ∀ char ∈ places, char.isDigit = true) :
      IsToken (whole ++ '.' :: places) (Avoids Char.isDigit)
  | quoted {body content : List Char} (closed : Quoted.body? body = some (content, [])) :
      IsToken ('"' :: body) fun _ => True
  | pair {first second : Char} (listed : (first, second) ∈ signPairs) :
      IsToken [first, second] fun _ => True
  | single {char : Char} (sign : isSign char = true) : IsToken [char] (Avoids (joins char))

/-- From a text, over layout and these tokens, one comes to the rest of the text. -/
inductive Lexed : (text : List Char) → (tokens : List (List Char)) → (rest : List Char) → Prop
  | stay (text : List Char) : Lexed text [] text
  | layout {piece behind rest : List Char} {tokens : List (List Char)}
      (isPiece : IsPiece piece behind) (onward : Lexed behind tokens rest) :
      Lexed (piece ++ behind) tokens rest
  | token {token behind rest : List Char} {ends : List Char → Prop} {tokens : List (List Char)}
      (isToken : IsToken token ends) (ended : ends behind) (onward : Lexed behind tokens rest) :
      Lexed (token ++ behind) (token :: tokens) rest

/-- From one place to the next and on from there. -/
theorem Lexed.append {text between rest : List Char} {tokens others : List (List Char)}
    (lexed : Lexed text tokens between) (onward : Lexed between others rest) :
    Lexed text (tokens ++ others) rest := by
  induction lexed with
  | stay => exact onward
  | layout isPiece _ inductionHypothesis => exact .layout isPiece (inductionHypothesis onward)
  | token isToken ended _ inductionHypothesis =>
    exact .token isToken ended (inductionHypothesis onward)

/-! ### How tokens begin -/

/-- The pairs begin with signs. -/
theorem isSign_of_mem_signPairs {first second : Char} (listed : (first, second) ∈ signPairs) :
    isSign first = true ∧ isSign second = true := by
  have all : (signPairs.all fun pair => isSign pair.1 && isSign pair.2) = true := by decide
  have both := List.all_eq_true.mp all _ listed
  simpa only [Bool.and_eq_true] using both

/-- Another character stands in front. -/
theorem avoids_char {char other : Char} (differs : char ≠ other) (later : List Char) :
    Avoids (· == other) (char :: later) := by
  rintro _ _ ⟨⟩
  exact beq_eq_false_iff_ne.mpr differs

/-- Digits do not begin with anything else. -/
theorem avoids_digits {test : Char → Bool} {digits : List Char} (nonempty : digits ≠ [])
    (areDigits : ∀ char ∈ digits, char.isDigit = true)
    (fails : ∀ char, char.isDigit = true → test char = false) (behind : List Char) :
    Avoids test (digits ++ behind) := by
  obtain ⟨first, others, rfl⟩ := List.exists_cons_of_ne_nil nonempty
  exact avoids_cons (fails first (areDigits first List.mem_cons_self)) _

/-- A digit is no sign. -/
theorem isSign_of_isDigit {char : Char} (digit : char.isDigit = true) : isSign char = false := by
  simp [isSign, digit]

/-- What begins a name is no sign. -/
theorem isSign_of_isNameStart {char : Char} (start : isNameStart char = true) :
    isSign char = false := by
  simp [isSign, start]

/-- Of the tokens only signs begin with a character that stands for itself. -/
theorem IsToken.sign_cases {token : List Char} {ends : List Char → Prop}
    (isToken : IsToken token ends) {char : Char} (sign : isSign char = true) :
    (∀ behind, Avoids (· == char) (token ++ behind)) ∨
      (∃ second, (char, second) ∈ signPairs ∧ token = [char, second]) ∨
      token = [char] ∧ ∀ behind, ends behind → Avoids (joins char) behind := by
  have noSign {other : Char} (no : isSign other = false) : other ≠ char := by
    rintro rfl
    exact absurd sign (by simp [no])
  have noDigit (other : Char) (digit : other.isDigit = true) : (other == char) = false :=
    beq_eq_false_iff_ne.mpr (noSign (isSign_of_isDigit digit))
  cases isToken with
  | name start _ => exact .inl fun _ => avoids_char (noSign (isSign_of_isNameStart start)) _
  | whole nonempty areDigits => exact .inl (avoids_digits nonempty areDigits noDigit)
  | fraction nonempty areDigits _ _ =>
    refine .inl fun behind => ?_
    rw [List.append_assoc]
    exact avoids_digits nonempty areDigits noDigit _
  | quoted _ => exact .inl fun _ => avoids_char (noSign (by decide)) _
  | @pair first second listed =>
    by_cases same : first = char
    · exact .inr (.inl ⟨second, same ▸ listed, by rw [same]⟩)
    · exact .inl fun _ => avoids_char same _
  | @single other _ =>
    by_cases same : other = char
    · subst same
      exact .inr (.inr ⟨rfl, fun _ => id⟩)
    · exact .inl fun _ => avoids_char same _

/-- Of the tokens only the sign itself begins with a sign that begins no pair. -/
theorem IsToken.lone_cases {token : List Char} {ends : List Char → Prop}
    (isToken : IsToken token ends) {char : Char} (sign : isSign char = true)
    (lone : (signPairs.all fun pair => pair.1 != char) = true) :
    (∀ behind, Avoids (· == char) (token ++ behind)) ∨ token = [char] := by
  obtain another | ⟨second, listed, _⟩ | ⟨same, _⟩ := isToken.sign_cases sign
  · exact .inl another
  · have differs := List.all_eq_true.mp lone _ listed
    simp at differs
  · exact .inr same

/-- A sign that begins no pair and no comment ends in front of everything. -/
theorem avoids_joins {char : Char} (lone : (signPairs.all fun pair => pair.1 != char) = true)
    (noSlash : char ≠ '/') (behind : List Char) : Avoids (joins char) behind := by
  intro second later _
  rw [Bool.eq_false_iff]
  intro joined
  simp only [joins, Bool.or_eq_true, List.contains_iff_mem, Bool.and_eq_true, beq_iff_eq] at joined
  obtain listed | ⟨slash, _⟩ := joined
  · have differs := List.all_eq_true.mp lone _ listed
    simp at differs
  · exact noSlash slash

/-- A token is not empty. -/
theorem IsToken.ne_nil {token : List Char} {ends : List Char → Prop}
    (isToken : IsToken token ends) : token ≠ [] := by
  cases isToken with
  | whole nonempty _ => exact nonempty
  | fraction => simp
  | _ => exact List.cons_ne_nil _ _

/-- A sign is solid in front of what does not make a comment of it. -/
theorem isSolid_of_isSign {char : Char} (sign : isSign char = true) {behind : List Char}
    (ends : Avoids (joins char) behind) : IsSolid (char :: behind) := by
  simp only [isSign, Bool.and_eq_true, Bool.not_eq_true', bne_iff_ne] at sign
  obtain ⟨⟨_, noBlank⟩, noHash⟩ := sign
  rintro _ _ ⟨⟩
  refine ⟨noBlank, noHash, ?_⟩
  rintro rfl tail rfl
  exact absurd (ends '/' tail rfl) (by decide)

/-- No layout begins with a token. -/
theorem IsToken.isSolid {token behind : List Char} {ends : List Char → Prop}
    (isToken : IsToken token ends) (ended : ends behind) : IsSolid (token ++ behind) := by
  have solidDigits {digits : List Char} (nonempty : digits ≠ [])
      (areDigits : ∀ char ∈ digits, char.isDigit = true) (later : List Char) :
      IsSolid (digits ++ later) := by
    obtain ⟨first, others, rfl⟩ := List.exists_cons_of_ne_nil nonempty
    exact isSolid_of_isNamePart (isNamePart_of_isDigit (areDigits first List.mem_cons_self)) _
  cases isToken with
  | name start _ => exact isSolid_of_isNameStart start _
  | whole nonempty areDigits => exact solidDigits nonempty areDigits _
  | fraction nonempty areDigits _ _ =>
    rw [List.append_assoc]
    exact solidDigits nonempty areDigits _
  | quoted _ => exact isSolid_cons rfl _
  | @pair first second listed =>
    have all : (signPairs.all fun pair => !mayBeginLayout pair.1) = true := by decide
    have noLayout := List.all_eq_true.mp all _ listed
    exact isSolid_cons (by simpa only [Bool.not_eq_true'] using noLayout) _
  | single sign => exact isSolid_of_isSign sign ended

/-- A blank is no digit. -/
theorem isDigit_of_isBlank {char : Char} (blank : Text.isBlank char = true) :
    char.isDigit = false := by
  have noPart := isNamePart_of_isBlank blank
  rw [Bool.eq_false_iff]
  intro digit
  exact absurd noPart (by simp [isNamePart_of_isDigit digit])

/-- Every token ends in front of a blank. -/
theorem IsToken.ends_of_isBlank {token : List Char} {ends : List Char → Prop}
    (isToken : IsToken token ends) {char : Char} (blank : Text.isBlank char = true)
    (later : List Char) : ends (char :: later) := by
  have noPart := isNamePart_of_isBlank blank
  have noDigit := isDigit_of_isBlank blank
  cases isToken with
  | name => exact avoids_cons noPart later
  | whole =>
    refine ⟨avoids_cons noDigit later, ?_⟩
    rintro _ ⟨⟩
    exact absurd blank (by decide)
  | fraction => exact avoids_cons noDigit later
  | quoted => trivial
  | pair => trivial
  | @single sign _ =>
    refine avoids_cons ?_ later
    rw [Bool.eq_false_iff]
    intro joined
    simp only [joins, Bool.or_eq_true, List.contains_iff_mem, Bool.and_eq_true,
      beq_iff_eq] at joined
    obtain listed | ⟨_, rfl⟩ := joined
    · have second := (isSign_of_mem_signPairs listed).2
      simp [isSign, blank] at second
    · exact absurd blank (by decide)

/-- An identifier is a token. -/
theorem isToken_identifier {name : String} (isName : isIdentifier name = true) :
    IsToken name.toList (Avoids isNamePart) := by
  unfold isIdentifier at isName
  split at isName
  · cases isName
  · rename_i first others form
    obtain ⟨start, parts⟩ := Bool.and_eq_true_iff.mp isName
    rw [form]
    exact .name start (List.all_eq_true.mp parts)

/-! ### Texts of tokens -/

/-- What a reading passes over character by character it passes over in every passage. -/
theorem passage_behind_inert {taken rest : List Char} {depth after : Nat}
    {passed : List (List Char)} (inert : ∀ char ∈ taken, isInert char = true)
    (passage : Passage depth (taken ++ rest) passed after []) :
    Passage depth rest passed after [] := by
  induction taken with
  | nil => exact passage
  | cons first others inductionHypothesis =>
    have isFirst := inert first List.mem_cons_self
    simp only [isInert, Bool.and_eq_true, Bool.not_eq_true', bne_iff_ne] at isFirst
    obtain ⟨⟨noLayout, noQuote⟩, noBracket⟩ := isFirst
    have onward (passage : Passage depth (others ++ rest) passed after []) :=
      inductionHypothesis (fun char member => inert char (List.mem_cons_of_mem _ member)) passage
    generalize form : first :: others ++ rest = text at passage
    cases passage with
    | stay => cases form
    | layout read _ =>
      subst form
      obtain ⟨_, refused, _⟩ := (isSolid_cons noLayout (others ++ rest)).declines
      cases read.symm.trans refused
    | quoted =>
      cases form
      exact absurd rfl noQuote
    | solid _ _ _ passage =>
      cases form
      exact onward passage
    | opening =>
      cases form
      exact absurd noBracket (by decide)
    | closing =>
      cases form
      exact absurd noBracket (by decide)
    | curly isCurly _ =>
      cases form
      obtain rfl | rfl := isCurly <;> exact absurd noBracket (by decide)

/-- What has been read of a quoted text is a quoted text by itself. -/
theorem body?_taken {text content behind : List Char}
    (found : Quoted.body? text = some (content, behind)) :
    ∃ taken, text = taken ++ behind ∧ Quoted.body? taken = some (content, []) := by
  obtain ⟨inside, encloses, rfl⟩ := Quoted.exists_encloses_of_body? found
  exact ⟨inside ++ ['"'], by simp, encloses.body?_eq []⟩

/-- Where the text avoids nothing, its first character is the reason. -/
theorem exists_of_not_avoids {test : Char → Bool} {input : List Char}
    (not : ¬ Avoids test input) : ∃ char later, input = char :: later ∧ test char = true := by
  by_contra none
  refine not fun char later same => ?_
  rw [Bool.eq_false_iff]
  exact fun passes => none ⟨char, later, same, passes⟩

/-- A text that begins with a digit begins with a number. -/
theorem exists_number {char : Char} (digit : char.isDigit = true) (later : List Char) :
    ∃ others behind ends, later = others ++ behind ∧ IsToken (char :: others) ends ∧ ends behind ∧
      ∀ other ∈ others, isInert other = true := by
  have runRead (input : List Char) : (run Char.isDigit).read input =
      .ok (input.takeWhile Char.isDigit, input.dropWhile Char.isDigit) := rfl
  obtain ⟨form, digits, ends⟩ := run_accepts (runRead later)
  generalize later.takeWhile Char.isDigit = others at form digits
  generalize later.dropWhile Char.isDigit = behind at form ends
  have inert : ∀ other ∈ others, isInert other = true :=
    fun other member => isInert_of_isDigit (digits other member)
  have allDigits : ∀ other ∈ char :: others, other.isDigit = true :=
    List.forall_mem_cons.mpr ⟨digit, digits⟩
  by_cases noPlaces : ∀ tail, behind = '.' :: tail → Avoids Char.isDigit tail
  · exact ⟨others, behind, _, form, .whole (List.cons_ne_nil _ _) allDigits, ⟨ends, noPlaces⟩,
      inert⟩
  · push Not at noPlaces
    obtain ⟨tail, rfl, goesOn⟩ := noPlaces
    obtain ⟨first, rest, rfl, firstDigit⟩ := exists_of_not_avoids goesOn
    obtain ⟨placesForm, placesDigits, placesEnd⟩ := run_accepts (runRead rest)
    generalize rest.takeWhile Char.isDigit = places at placesForm placesDigits
    generalize rest.dropWhile Char.isDigit = last at placesForm placesEnd
    have allPlaces : ∀ other ∈ first :: places, other.isDigit = true :=
      List.forall_mem_cons.mpr ⟨firstDigit, placesDigits⟩
    refine ⟨others ++ '.' :: first :: places, last, Avoids Char.isDigit, ?_, ?_, placesEnd, ?_⟩
    · rw [form, placesForm]
      simp
    · exact .fraction (List.cons_ne_nil _ _) allDigits (List.cons_ne_nil _ _) allPlaces
    · intro other member
      rcases List.mem_append.mp member with inWhole | behindWhole
      · exact inert other inWhole
      · rcases List.mem_cons.mp behindWhole with rfl | inPlaces
        · decide
        · exact isInert_of_isDigit (allPlaces other inPlaces)

/-- A text begins with a token if neither layout nor a quote begins it. Behind its first character
the token is inert. -/
theorem exists_token {char : Char} {later : List Char} (solid : IsSolid (char :: later))
    (noQuote : char ≠ '"') :
    ∃ others behind ends, later = others ++ behind ∧ IsToken (char :: others) ends ∧ ends behind ∧
      ∀ other ∈ others, isInert other = true := by
  obtain ⟨noBlank, noHash, noComment⟩ := solid char later rfl
  by_cases start : isNameStart char = true
  · have runRead : (run isNamePart).read later =
        .ok (later.takeWhile isNamePart, later.dropWhile isNamePart) := rfl
    obtain ⟨form, parts, ends⟩ := run_accepts runRead
    exact ⟨_, _, _, form, .name start parts, ends,
      fun other member => isInert_of_isNamePart (parts other member)⟩
  by_cases digit : char.isDigit = true
  · exact exists_number digit later
  have sign : isSign char = true := by
    simp [isSign, start, digit, noQuote, noBlank, noHash]
  by_cases ends : Avoids (joins char) later
  · exact ⟨[], later, _, rfl, .single sign, ends, by simp⟩
  · obtain ⟨second, rest, rfl, joined⟩ := exists_of_not_avoids ends
    simp only [joins, Bool.or_eq_true, List.contains_iff_mem, Bool.and_eq_true,
      beq_iff_eq] at joined
    obtain listed | ⟨rfl, rfl⟩ := joined
    · have all : (signPairs.all fun pair => isInert pair.2) = true := by decide
      have inert := List.all_eq_true.mp all _ listed
      exact ⟨[second], rest, _, rfl, .pair listed, trivial, by simpa using inert⟩
    · exact absurd rfl (noComment rfl rest)

/-- A text that is one passage is made of tokens and layout.

Induct on the length of the text, since a token may be several steps of the passage. -/
theorem lexed_of_passage {text : List Char} {depth after : Nat} {passed : List (List Char)}
    (passage : Passage depth text passed after []) : ∃ tokens, Lexed text tokens [] := by
  induction size : text.length using Nat.strongRecOn generalizing text depth passed with
  | _ count inductionHypothesis =>
    subst size
    have tokenAhead {char : Char} {later : List Char} {between : Nat} {others : List (List Char)}
        (form : text = char :: later) (solid : IsSolid (char :: later)) (noQuote : char ≠ '"')
        (onward : Passage between later others after []) : ∃ tokens, Lexed text tokens [] := by
      obtain ⟨tail, behind, ends, rfl, isToken, ended, inert⟩ := exists_token solid noQuote
      have shorter : behind.length < text.length := by
        rw [form, List.length_cons, List.length_append]
        omega
      obtain ⟨tokens, lexed⟩ :=
        inductionHypothesis _ shorter (passage_behind_inert inert onward) rfl
      rw [form]
      exact ⟨_, .token isToken ended lexed⟩
    cases passage with
    | stay => exact ⟨[], .stay []⟩
    | layout read onward =>
      obtain ⟨tokens, lexed⟩ := inductionHypothesis _ (consumes_layoutPiece read) onward rfl
      obtain ⟨piece, rfl, isPiece⟩ := layoutPiece_accepts read
      exact ⟨tokens, .layout isPiece lexed⟩
    | quoted found onward =>
      have shorter := Nat.lt_succ_of_le (Quoted.body?_isSuffix found).length_le
      obtain ⟨tokens, lexed⟩ := inductionHypothesis _ shorter onward rfl
      obtain ⟨taken, rfl, closed⟩ := body?_taken found
      exact ⟨_, .token (.quoted closed) trivial lexed⟩
    | solid isSolid noQuote _ onward => exact tokenAhead rfl isSolid noQuote onward
    | opening onward => exact tokenAhead rfl (isSolid_cons rfl _) (by decide) onward
    | closing onward => exact tokenAhead rfl (isSolid_cons rfl _) (by decide) onward
    | curly isCurly onward =>
      obtain rfl | rfl := isCurly
      · exact tokenAhead rfl (isSolid_cons rfl _) (by decide) onward
      · exact tokenAhead rfl (isSolid_cons rfl _) (by decide) onward

end WidgetAudit.Grammar
