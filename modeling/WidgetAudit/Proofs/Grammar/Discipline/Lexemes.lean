import WidgetAudit.Proofs.Grammar.Discipline
import WidgetAudit.Proofs.Text.Quoted

/-!
# How the smallest readers behave

Layout, names, keywords, quoted texts and numbers are small parts: their passages show no
bracket. A single bracket opens a parenthesis, closes one, or leaves their number as it is.

A reader that takes its text by looking at one character after the other is a small part if
it takes only inert characters, those that mean nothing to the scan wherever they stand.
-/

namespace WidgetAudit.Grammar

open Reader
open Source (Passage brackets overflow? isBracket)

/-! ### Inert characters -/

/-- A character that begins neither layout nor a quoted text, and that is no bracket. -/
def isInert (char : Char) : Bool :=
  !mayBeginLayout char && char != '"' && !isBracket char

/-- A reading passes over inert characters. -/
theorem passage_inert {taken : List Char} (inert : ∀ char ∈ taken, isInert char = true)
    (depth : Nat) (rest : List Char) : Passage depth (taken ++ rest) [] depth rest := by
  induction taken with
  | nil => exact .stay depth rest
  | cons first others inductionHypothesis =>
    have isFirst := inert first List.mem_cons_self
    simp only [isInert, Bool.and_eq_true, Bool.not_eq_true', bne_iff_ne] at isFirst
    obtain ⟨⟨noLayout, noQuote⟩, noBracket⟩ := isFirst
    exact .solid (isSolid_cons noLayout _) noQuote noBracket
      (inductionHypothesis fun char member => inert char (List.mem_cons_of_mem _ member))

/-- A character of a name is inert. -/
theorem isInert_of_isNamePart {char : Char} (part : isNamePart char = true) :
    isInert char = true := by
  have differs : ∀ other, isNamePart other = false → char ≠ other := by
    rintro other no rfl
    exact absurd part (by simp [no])
  have noBlank : Text.isBlank char = false := by
    rw [Bool.eq_false_iff]
    intro blank
    exact absurd part (by simp [isNamePart_of_isBlank blank])
  simp only [isInert, mayBeginLayout, isBracket, noBlank, Bool.false_or, Bool.and_eq_true,
    Bool.not_eq_true', Bool.or_eq_false_iff, beq_eq_false_iff_ne, bne_iff_ne]
  exact ⟨⟨⟨differs _ (by decide), differs _ (by decide)⟩, differs _ (by decide)⟩,
    ⟨⟨differs _ (by decide), differs _ (by decide)⟩, differs _ (by decide)⟩,
    differs _ (by decide)⟩

/-- A digit is inert. -/
theorem isInert_of_isDigit {char : Char} (digit : char.isDigit = true) :
    isInert char = true :=
  isInert_of_isNamePart (isNamePart_of_isDigit digit)

/-! ### Single steps -/

namespace Reader

variable {α : Type}

/-- A reader whose passages show no bracket is lexical. -/
theorem lexical_of_passage {reader : Reader α}
    (passes : ∀ {input value rest}, reader.read input = .ok (value, rest) →
      ∀ depth, Passage depth input [] depth rest)
    (stable : ∀ {input value rest}, reader.read input = .ok (value, rest) → BraceAhead rest →
      ∀ extra, reader.read (input ++ extra) = .ok (value, rest ++ extra))
    (shallow : ∀ input, reader.Suffices input)
    (wary : reader.Wary) : reader.Lexical where
  orderly _ depth :=
    { passes := fun accepted => ⟨[], passes accepted depth⟩
      stable := stable
      shallow := fun _ _ => shallow _ }
  keeps accepted ahead := ahead.behind (passes accepted 0)
  wary := wary

/-- What a single character refuses another alternative may still read. -/
theorem charWhere_refuses {test : Char → Bool} {input : List Char} {refusal : Refusal}
    (refused : (charWhere test).read input = .error refusal) : refusal.severity = .tentative := by
  cases input with
  | nil =>
    cases refused
    rfl
  | cons first later =>
    simp only [charWhere] at refused
    split at refused
    · cases refused
    · cases refused
      rfl

/-- A text with a brace ahead is not empty, and its first character stays the first one. -/
theorem wary_charWhere (test : Char → Bool) : (charWhere test).Wary := by
  intro input declines ahead extra
  obtain ⟨first, later, rfl⟩ := List.exists_cons_of_ne_nil ahead.ne_nil
  exact declines_charWhere (avoids_cons (charWhere_declines declines first later rfl) _)

/-- An inert character is a small part. -/
theorem lexical_charWhere {test : Char → Bool}
    (inert : ∀ char, test char = true → isInert char = true) : (charWhere test).Lexical := by
  refine lexical_of_passage ?_ ?_ ?_ (wary_charWhere test)
  · intro input char rest accepted depth
    obtain ⟨rfl, passes⟩ := charWhere_accepts accepted
    have isInert : ∀ other ∈ [char], isInert other = true := by simpa using inert char passes
    exact passage_inert isInert depth rest
  · intro input char rest accepted _ extra
    obtain ⟨rfl, passes⟩ := charWhere_accepts accepted
    exact read_charWhere passes (rest ++ extra)
  · intro input refusal refused
    simp [charWhere_refuses refused]

/-- A given inert character is a small part. -/
theorem lexical_char {wanted : Char} (inert : isInert wanted = true) : (char wanted).Lexical :=
  lexical_charWhere fun _ same => beq_iff_eq.mp same ▸ inert

/-- A run may be empty, so it never declines. -/
theorem resolute_run (test : Char → Bool) : (run test).Resolute := by
  rintro input ⟨refusal, refused, _⟩
  cases refused

/-- A run of inert characters is a small part. -/
theorem lexical_run {test : Char → Bool}
    (inert : ∀ char, test char = true → isInert char = true) : (run test).Lexical := by
  refine lexical_of_passage ?_ ?_ ?_ (resolute_run test).wary
  · intro input taken rest accepted depth
    obtain ⟨rfl, pass, _⟩ := run_accepts accepted
    exact passage_inert (fun char member => inert char (pass char member)) depth rest
  · intro input taken rest accepted ahead extra
    obtain ⟨rfl, pass, ends⟩ := run_accepts accepted
    obtain ⟨first, later, rfl⟩ := List.exists_cons_of_ne_nil ahead.ne_nil
    rw [List.append_assoc]
    exact read_run pass (avoids_cons (ends first later rfl) _)
  · intro input refusal refused
    cases refused

/-- A run of inert characters that may not be empty is a small part. -/
theorem lexical_run1 {test : Char → Bool}
    (inert : ∀ char, test char = true → isInert char = true) : (run1 test).Lexical :=
  (lexical_charWhere inert).bind fun _ => (lexical_run inert).bind fun _ => .pure _

/-- Where a given text does not stand, another alternative may be tried. -/
theorem text_refuses {wanted : String} {input : List Char} {refusal : Refusal}
    (refused : (text wanted).read input = .error refusal) : refusal.severity = .tentative := by
  simp only [text] at refused
  split at refused
  · cases refused
  · cases refused
    rfl

/-- What is no beginning of a given text because of its characters stays none; it cannot be too
short, because the brace would have to stand in the given text. -/
theorem wary_text {wanted : String} (braceless : '}' ∉ wanted.toList) : (text wanted).Wary := by
  intro input declines ahead extra
  apply declines_text
  rw [Bool.eq_false_iff]
  intro starts
  have isPrefix := List.isPrefixOf_iff_prefix.mp starts
  rcases List.prefix_or_prefix_of_prefix isPrefix (List.prefix_append input extra) with
    whole | beginning
  · exact absurd (List.isPrefixOf_iff_prefix.mpr whole) (by simp [text_declines declines])
  · exact braceless (beginning.subset ahead.mem)

/-- A given text of inert characters is a small part. -/
theorem lexical_text {wanted : String} (inert : wanted.toList.all isInert = true) :
    (text wanted).Lexical := by
  have inertEach : ∀ char ∈ wanted.toList, isInert char = true := List.all_eq_true.mp inert
  have braceless : '}' ∉ wanted.toList := by
    intro member
    exact absurd (inertEach _ member) (by decide)
  refine lexical_of_passage ?_ ?_ ?_ (wary_text braceless)
  · intro input value rest accepted depth
    rw [text_accepts accepted]
    exact passage_inert inertEach depth rest
  · intro input value rest accepted _ extra
    rw [text_accepts accepted, List.append_assoc]
    exact read_text wanted (rest ++ extra)
  · intro input refusal refused
    simp [text_refuses refused]

/-- A bracket is read by a reader that knows what it does to the open parentheses. -/
theorem orderly_char {wanted : Char} {before after : Nat}
    (step : ∀ later, ∃ passed, Passage before (wanted :: later) passed after later)
    (limit : Nat) : (char wanted).Orderly limit before fun _ => after where
  passes accepted := by
    rw [char_accepts accepted]
    exact step _
  stable accepted _ extra := by
    obtain ⟨rfl, passes⟩ := charWhere_accepts accepted
    obtain rfl := beq_iff_eq.mp passes
    exact read_char _ (_ ++ extra)
  shallow _ _ refusal refused := by simp [charWhere_refuses refused]

end Reader

/-! ### Layout -/

/-- What is no piece of layout may be something else. -/
theorem layoutPiece_refuses {input : List Char} {refusal : Refusal}
    (refused : layoutPiece.read input = .error refusal) : refusal.severity = .tentative := by
  have lineRefuses {line : List Char} (lineRefused : lineRest.read line = .error refusal) :
      refusal.severity = .tentative := by
    rcases bind_refuses lineRefused with atRun | ⟨_, middle, _, atEnd⟩
    · cases atRun
    · simp only [lineEnd] at atEnd
      split at atEnd <;> cases atEnd
      rfl
  rcases orElse_refuses refused with atBlanks | atComment
  · rcases bind_refuses atBlanks with atRun | ⟨_, _, _, given⟩
    · rcases bind_refuses atRun with atFirst | ⟨_, _, _, later⟩
      · exact charWhere_refuses atFirst
      · rcases bind_refuses later with atOthers | ⟨_, _, _, given⟩
        · cases atOthers
        · cases given
    · cases given
  · rcases orElse_refuses atComment with atSlashes | atHash
    · rcases bind_refuses atSlashes with atText | ⟨_, _, _, atLine⟩
      · exact text_refuses atText
      · exact lineRefuses atLine
    · rcases bind_refuses atHash with atChar | ⟨_, _, _, atLine⟩
      · exact charWhere_refuses atChar
      · exact lineRefuses atLine

/-- A comment that the end of the text has closed could go on in what is added; but a brace is
ahead, so the text does not end there. -/
theorem lexical_layoutPiece : layoutPiece.Lexical := by
  refine lexical_of_passage ?_ ?_ ?_ ?_
  · intro input value rest accepted depth
    exact .layout accepted (.stay depth rest)
  · intro input value rest accepted ahead extra
    obtain ⟨piece, rfl, isPiece⟩ := layoutPiece_accepts accepted
    rw [List.append_assoc]
    exact read_layoutPiece (isPiece.append ahead.ne_nil extra)
  · intro input refusal refused
    simp [layoutPiece_refuses refused]
  · intro input declines ahead extra
    obtain ⟨bracket, member, _⟩ := id ahead
    have solid := Source.isSolid_of_brackets declines (List.ne_nil_of_mem member)
    obtain ⟨first, later, rfl⟩ := List.exists_cons_of_ne_nil ahead.ne_nil
    obtain ⟨noBlank, noHash, noComment⟩ := solid first later rfl
    refine IsSolid.declines ?_
    rintro _ _ ⟨⟩
    refine ⟨noBlank, noHash, ?_⟩
    rintro rfl tail doubled
    -- a slash at the end of the text could become a comment, but the brace stands behind it
    have braceLater : '}' ∈ later := by simpa using ahead.mem
    obtain ⟨second, others, rfl⟩ := List.exists_cons_of_ne_nil (List.ne_nil_of_mem braceLater)
    cases doubled
    exact noComment rfl others rfl

/-- Layout is a small part. -/
theorem lexical_layout : layout.Lexical :=
  (lexical_layoutPiece.many consumes_layoutPiece).bind fun _ => .pure ()

/-- A sign and the layout in front of it are a small part. -/
theorem lexical_sign {wanted : Char} (inert : isInert wanted = true) : (sign wanted).Lexical :=
  lexical_layout.bind fun _ => (lexical_char inert).bind fun _ => .pure ()

/-! ### Brackets -/

section Brackets

variable {limit before after : Nat}

/-- Layout and a bracket. -/
theorem orderly_sign {wanted : Char}
    (step : ∀ later, ∃ passed, Passage before (wanted :: later) passed after later) :
    (sign wanted).Orderly limit before fun _ => after :=
  (lexical_layout.orderly limit before).bind fun _ =>
    (orderly_char step limit).bind fun _ => .pure ()

/-- A sign is declined where it does not stand, also when text is added. -/
theorem wary_sign (wanted : Char) : (sign wanted).Wary :=
  lexical_layout.wary_bind fun _ => (wary_charWhere _).bind fun _ => resolute_pure ()

/-- An opening parenthesis is passed with one more parenthesis open. -/
theorem passage_opening (later : List Char) :
    ∃ passed, Passage before ('(' :: later) passed (before + 1) later :=
  ⟨_, .opening (.stay _ later)⟩

/-- A closing parenthesis is passed with one parenthesis less open. -/
theorem passage_closing (later : List Char) :
    ∃ passed, Passage (after + 1) (')' :: later) passed after later :=
  ⟨_, .closing (.stay _ later)⟩

/-- A brace is passed with as many parentheses open as before. -/
theorem passage_curly {bracket : Char} (isCurly : bracket = '{' ∨ bracket = '}')
    (later : List Char) : ∃ passed, Passage before (bracket :: later) passed before later :=
  ⟨_, .curly isCurly (.stay _ later)⟩

/-- A closing brace is ahead of itself. -/
theorem braceAhead_cons (later : List Char) : BraceAhead ('}' :: later) := by
  refine ⟨'}' :: later, ?_, rfl⟩
  rw [Source.brackets_solid (isSolid_cons rfl later) (by decide)]
  exact List.mem_cons_self

/-- Layout and a closing brace. -/
theorem closing_brace : (sign '}').Closing limit before fun _ => before := by
  have brace : (char '}').Closing limit before fun _ => before := by
    refine ⟨orderly_char (passage_curly (.inr rfl)) limit, ?_⟩
    intro input value rest accepted
    obtain ⟨rfl, passes⟩ := charWhere_accepts accepted
    obtain rfl := beq_iff_eq.mp passes
    exact ⟨braceAhead_cons rest, fun extra => read_char '}' (rest ++ extra)⟩
  exact Closing.bind (lexical_layout.orderly limit before) fun _ => brace.map fun _ => ()

end Brackets

/-! ### Names and literals -/

/-- An identifier is a small part. -/
theorem lexical_identifier : identifier.Lexical :=
  (lexical_charWhere fun _ start => isInert_of_isNamePart (isNamePart_of_isNameStart start)).bind
    fun _ => (lexical_run fun _ => isInert_of_isNamePart).bind fun _ => .pure _

/-- A keyword is a small part. -/
theorem lexical_keyword (word : String) : (keyword word).Lexical :=
  ((lexical_identifier.checked _).bind fun _ => .pure ()).remarking _

/-- A quoted text that has been read is what stands behind the quote. -/
theorem quoted_accepts {input rest : List Char} {content : String}
    (accepted : quoted.read input = .ok (content, rest)) :
    ∃ body, input = '"' :: body ∧ Quoted.body? body = some (content.toList, rest) := by
  obtain ⟨quote, body, charRead, bodyRead⟩ := bind_accepts accepted
  have found := commit_accepts (remarking_accepts bodyRead)
  refine ⟨body, char_accepts charRead, ?_⟩
  simp only [quotedBody] at found
  split at found
  · rename_i characters behind bodyFound
    cases found
    rw [bodyFound, String.toList_ofList]
  · cases found

/-- A closed quoted text is closed whatever stands behind it. -/
theorem body?_append {body content rest : List Char}
    (found : Quoted.body? body = some (content, rest)) (extra : List Char) :
    Quoted.body? (body ++ extra) = some (content, rest ++ extra) := by
  obtain ⟨inside, encloses, rfl⟩ := Quoted.exists_encloses_of_body? found
  rw [List.append_assoc]
  exact encloses.body?_eq (rest ++ extra)

/-- A quoted text is a small part: what it contains is not looked at. -/
theorem lexical_quoted : quoted.Lexical := by
  refine lexical_of_passage ?_ ?_ ?_ ?_
  · intro input content rest accepted depth
    obtain ⟨body, rfl, found⟩ := quoted_accepts accepted
    exact .quoted found (.stay depth rest)
  · intro input content rest accepted _ extra
    obtain ⟨body, rfl, found⟩ := quoted_accepts accepted
    rw [List.cons_append, read_quoted_of_body? (body?_append found extra), String.ofList_toList]
  · intro input refusal refused
    rcases bind_refuses refused with atQuote | ⟨_, body, _, atBody⟩
    · simp [charWhere_refuses atQuote]
    · obtain ⟨committed, atCommitted, severity⟩ := onRefusal_refuses atBody
      obtain ⟨own, atOwn, ownSeverity⟩ := onRefusal_refuses atCommitted
      have tentative : own.severity = .tentative := by
        simp only [quotedBody] at atOwn
        split at atOwn <;> cases atOwn
        rfl
      simp [severity, ownSeverity, tentative]
  · exact (wary_charWhere _).bind fun _ => (resolute_commit quotedBody).remarking _

/-- A number is a small part. -/
theorem lexical_number : number.Lexical := by
  have digits : (run1 Char.isDigit).Lexical := lexical_run1 fun _ => isInert_of_isDigit
  have fractional : fraction.Lexical := (lexical_char (by decide)).bind fun _ => digits
  exact ((digits.bind fun _ => fractional.optional.bind fun _ => .pure _).checked _).remarking _

end WidgetAudit.Grammar
