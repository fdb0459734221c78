import WidgetAudit.Grammar.Lexeme
import WidgetAudit.Proofs.Grammar.Reading

/-!
# What the smallest readers read

Layout, names, keywords, quoted texts and numbers are read back whatever text follows them,
as long as that text does not continue them: a name has to be followed by something that is
no part of a name, a number by neither a digit nor a point, and layout by something solid,
that is by a character that begins neither a blank nor a comment.
-/

namespace WidgetAudit

/-- An identifier is made of letters, digits and underscores of ASCII and does not begin
with a digit. -/
def isIdentifier (name : String) : Bool :=
  match name.toList with
  | [] => false
  | first :: others =>
    (first.isAlpha || first == '_') && others.all fun char => char.isAlphanum || char == '_'

namespace Grammar

open Reader

/-! ### Names -/

/-- No name that stands in front of the text goes on in it. -/
def EndsName (following : List Char) : Prop := Avoids isNamePart following

/-- Behind a character that is no part of a name, none goes on. -/
theorem endsName_cons {char : Char} (no : isNamePart char = false) (later : List Char) :
    EndsName (char :: later) :=
  avoids_cons no later

/-- A name may go on with what it may begin with. -/
theorem isNamePart_of_isNameStart {char : Char} (start : isNameStart char = true) :
    isNamePart char = true := by
  simp only [isNameStart, isNamePart, Char.isAlphanum, Bool.or_eq_true] at start ⊢
  exact start.imp_left Or.inl

/-- A name may go on with a digit. -/
theorem isNamePart_of_isDigit {char : Char} (digit : char.isDigit = true) :
    isNamePart char = true := by
  simp [isNamePart, Char.isAlphanum, digit]

/-- An identifier is read as a name. -/
theorem read_identifier {name : String} (isName : isIdentifier name = true)
    {following : List Char} (ends : EndsName following) :
    identifier.read (name.toList ++ following) = .ok (name, following) := by
  unfold isIdentifier at isName
  split at isName
  · cases isName
  · rename_i first others form
    obtain ⟨start, parts⟩ := Bool.and_eq_true_iff.mp isName
    have firstRead : (charWhere isNameStart).read (first :: (others ++ following)) =
        .ok (first, others ++ following) := read_charWhere start _
    have othersRead : (run isNamePart).read (others ++ following) = .ok (others, following) :=
      read_run (List.all_eq_true.mp parts) ends
    rw [form, List.cons_append, identifier, read_bind firstRead, read_map othersRead, ← form,
      String.ofList_toList]

/-- No name begins with another character. -/
theorem declines_identifier {input : List Char} (nameless : Avoids isNameStart input) :
    identifier.Declines input := (declines_charWhere nameless).bind _

/-- A keyword is read if it is a name. -/
theorem read_keyword {word : String} (isName : isIdentifier word = true)
    {following : List Char} (ends : EndsName following) :
    (keyword word).read (word.toList ++ following) = .ok ((), following) := by
  have found : (identifier.filtered (· == word)).read (word.toList ++ following) =
      .ok (word, following) :=
    read_filtered (read_identifier isName ends) (beq_self_eq_true word)
  exact read_remarking (read_map found fun _ => ()) _

/-- A keyword is not read where another name stands. -/
theorem declines_keyword_of_name {name word : String} (differs : name ≠ word)
    (isName : isIdentifier name = true) {following : List Char} (ends : EndsName following) :
    (keyword word).Declines (name.toList ++ following) := by
  have fails : (name == word) = false := beq_eq_false_iff_ne.mpr differs
  exact ((declines_filtered (read_identifier isName ends) fails).bind _).remarking _

/-- A keyword is not read where no name can begin. -/
theorem declines_keyword {word : String} {input : List Char}
    (nameless : Avoids isNameStart input) : (keyword word).Declines input :=
  (((declines_identifier nameless).checked _).bind _).remarking _

/-! ### Layout -/

/-- No layout begins here: neither a blank nor a comment. -/
def IsSolid (input : List Char) : Prop :=
  ∀ char later, input = char :: later →
    Text.isBlank char = false ∧ char ≠ '#' ∧ (char = '/' → ∀ tail, later ≠ '/' :: tail)

/-- Layout may begin with the character. A slash alone does not make a comment. -/
def mayBeginLayout (char : Char) : Bool :=
  Text.isBlank char || char == '#' || char == '/'

/-- A character that layout never begins with is solid, whatever follows it. -/
theorem isSolid_cons {char : Char} (solid : mayBeginLayout char = false) (later : List Char) :
    IsSolid (char :: later) := by
  simp only [mayBeginLayout, Bool.or_eq_false_iff, beq_eq_false_iff_ne] at solid
  obtain ⟨⟨noBlank, noHash⟩, noSlash⟩ := solid
  intro first rest same
  cases same
  refine ⟨noBlank, noHash, ?_⟩
  intro slash
  exact absurd slash noSlash

/-- The end of the text is solid. -/
theorem isSolid_nil : IsSolid [] := by
  intro first rest same
  cases same

/-- No blank begins a solid text. -/
theorem IsSolid.noBlank {input : List Char} (solid : IsSolid input) :
    Avoids Text.isBlank input := by
  intro char later same
  exact (solid char later same).1

/-- No layout is read from a solid text. -/
theorem IsSolid.declines {input : List Char} (solid : IsSolid input) :
    layoutPiece.Declines input := by
  have noBlanks : (run1 Text.isBlank).Declines input :=
    (declines_charWhere solid.noBlank).bind _
  have noSlashes : (Reader.text "//").Declines input := by
    apply declines_text
    rw [Bool.eq_false_iff]
    intro starts
    obtain ⟨tail, same⟩ := List.isPrefixOf_iff_prefix.mp starts
    exact (solid '/' ('/' :: tail) same.symm).2.2 rfl tail rfl
  have noHash : (char '#').Declines input := by
    apply declines_char
    intro char later same
    exact beq_eq_false_iff_ne.mpr (solid char later same).2.1
  exact (noBlanks.bind _).orElse ((noSlashes.bind _).orElse (noHash.bind _))

/-- A row of blanks, which may be empty. -/
def IsGap (gap : List Char) : Prop := gap.all Text.isBlank = true

/-- No blank is a gap. -/
theorem isGap_nil : IsGap [] := rfl

/-- A single space is a gap. -/
theorem isGap_space : IsGap [' '] := rfl

/-- A gap in front of a solid text is skipped. -/
theorem read_layout {gap rest : List Char} (blank : IsGap gap) (solid : IsSolid rest) :
    layout.read (gap ++ rest) = .ok ((), rest) := by
  have ends := solid.declines.read_many consumes_layoutPiece
  by_cases empty : gap = []
  · subst empty
    exact read_map ends fun _ => ()
  · have blanksRead := read_run1 empty (List.all_eq_true.mp blank) solid.noBlank
    have blanks : layoutPiece.read (gap ++ rest) = .ok ((), rest) :=
      read_orElse (read_map blanksRead fun _ => ()) _
    exact read_map (read_many_cons consumes_layoutPiece blanks ends) fun _ => ()

/-- Nothing is skipped in front of a solid text. -/
theorem read_layout_solid {rest : List Char} (solid : IsSolid rest) :
    layout.read rest = .ok ((), rest) :=
  read_layout isGap_nil solid

/-- A single space is skipped. -/
theorem read_layout_space {rest : List Char} (solid : IsSolid rest) :
    layout.read (' ' :: rest) = .ok ((), rest) :=
  read_layout isGap_space solid

/-- A character behind layout is read. -/
theorem read_sign {wanted : Char} {input rest : List Char}
    (skipped : layout.read input = .ok ((), wanted :: rest)) :
    (sign wanted).read input = .ok ((), rest) := by
  rw [sign, read_bind skipped, read_map (read_char wanted rest)]

/-- Another character behind layout is declined. -/
theorem declines_sign {wanted : Char} {input rest : List Char}
    (skipped : layout.read input = .ok ((), rest))
    (other : Avoids (· == wanted) rest) : (sign wanted).Declines input :=
  declines_bind_next skipped ((declines_char other).bind _)

/-- A blank is no part of a name. -/
theorem isNamePart_of_isBlank {char : Char} (blank : Text.isBlank char = true) :
    isNamePart char = false := by
  have underscore : char ≠ '_' := by
    rintro rfl
    exact absurd blank (by decide)
  simp only [Text.isBlank, Bool.or_eq_true, Bool.and_eq_true, decide_eq_true_eq,
    beq_iff_eq] at blank
  rw [Bool.eq_false_iff]
  intro part
  unfold isNamePart Char.isAlphanum Char.isAlpha Char.isUpper Char.isLower Char.isDigit at part
  simp only [underscore, beq_iff_eq, Bool.or_eq_true, Bool.and_eq_true, decide_eq_true_eq,
    or_false, UInt32.le_iff_toNat_le, ge_iff_le] at part
  change ((65 ≤ char.toNat ∧ char.toNat ≤ 90) ∨ (97 ≤ char.toNat ∧ char.toNat ≤ 122)) ∨
    (48 ≤ char.toNat ∧ char.toNat ≤ 57) at part
  omega

/-- A character of a name is solid. -/
theorem isSolid_of_isNamePart {char : Char} (part : isNamePart char = true)
    (later : List Char) : IsSolid (char :: later) := by
  refine isSolid_cons ?_ later
  rw [Bool.eq_false_iff]
  intro layout
  simp only [mayBeginLayout, Bool.or_eq_true, beq_iff_eq] at layout
  rcases layout with (blank | rfl) | rfl
  · exact absurd part (by rw [isNamePart_of_isBlank blank]; decide)
  · exact absurd part (by decide)
  · exact absurd part (by decide)

/-- A character that begins a name is solid. -/
theorem isSolid_of_isNameStart {char : Char} (start : isNameStart char = true)
    (later : List Char) : IsSolid (char :: later) :=
  isSolid_of_isNamePart (isNamePart_of_isNameStart start) later

/-! ### Quoted texts -/

/-- A text is read behind its opening quote up to the closing one. -/
theorem read_quoted_of_body? {text content behind : List Char}
    (found : Quoted.body? text = some (content, behind)) :
    quoted.read ('"' :: text) = .ok (String.ofList content, behind) := by
  have body : quotedBody.read text = .ok (String.ofList content, behind) := by
    simp only [quotedBody, found]
  rw [quoted, read_bind (read_char '"' _)]
  exact read_remarking (read_commit body) _

/-- A text between quotes is read back. -/
theorem read_quoted (content : String) (following : List Char) :
    quoted.read (Quoted.written content.toList ++ following) = .ok (content, following) := by
  have form : Quoted.written content.toList ++ following =
      '"' :: (content.toList.flatMap Quoted.escaped ++ '"' :: following) := by
    simp [Quoted.written]
  rw [form, read_quoted_of_body? (Quoted.body?_written _ following), String.ofList_toList]

/-- No quoted text begins with another character than a quote. -/
theorem declines_quoted {input : List Char} (quoteless : Avoids (· == '"') input) :
    quoted.Declines input :=
  (declines_char quoteless).bind _

/-! ### Numbers -/

/-- No number that stands in front of the text goes on in it. -/
def EndsNumber (following : List Char) : Prop :=
  Avoids Char.isDigit following ∧ Avoids (· == '.') following

/-- The digits of a number are read. -/
def numberDigits : Reader (List Char × Option (List Char)) := do
  let whole ← run1 Char.isDigit
  let places ← optional fraction
  return (whole, places)

/-- Digits that have a meaning are read as a number. -/
theorem read_number {input rest whole : List Char} {places : Option (List Char)}
    {value : Value} (taken : numberDigits.read input = .ok ((whole, places), rest))
    (meaning : numberValue whole places = some value) :
    number.read input = .ok (value, rest) := by
  unfold number
  refine read_remarking (read_checked taken ?_) _
  split
  · rename_i found meant
    obtain rfl : found = value := Option.some.inj (meant.symm.trans meaning)
    rfl
  · rename_i meaningless
    cases meaningless.symm.trans meaning

/-- Digits alone are read as a number. -/
theorem read_number_whole {whole : List Char} {value : Value} (nonempty : whole ≠ [])
    (digits : ∀ char ∈ whole, char.isDigit = true)
    (meaning : numberValue whole none = some value) {following : List Char}
    (ends : EndsNumber following) :
    number.read (whole ++ following) = .ok (value, following) := by
  have wholeRead := read_run1 nonempty digits ends.1
  have noFraction : fraction.Declines following := (declines_char ends.2).bind _
  refine read_number ?_ meaning
  rw [numberDigits, read_bind wholeRead, read_map noFraction.read_optional]

/-- Digits, a point and digits are read as a number. -/
theorem read_number_fraction {whole places : List Char} {value : Value}
    (nonempty : whole ≠ []) (digits : ∀ char ∈ whole, char.isDigit = true)
    (placesNonempty : places ≠ []) (placesDigits : ∀ char ∈ places, char.isDigit = true)
    (meaning : numberValue whole (some places) = some value) {following : List Char}
    (ends : EndsNumber following) :
    number.read (whole ++ '.' :: (places ++ following)) = .ok (value, following) := by
  have point : Avoids Char.isDigit ('.' :: (places ++ following)) := avoids_cons rfl _
  have wholeRead := read_run1 nonempty digits point
  have placesRead := read_run1 placesNonempty placesDigits ends.1
  have fractionRead : fraction.read ('.' :: (places ++ following)) = .ok (places, following) := by
    rw [fraction, read_bind (read_char '.' _), placesRead]
  refine read_number ?_ meaning
  rw [numberDigits, read_bind wholeRead, read_map (read_optional fractionRead)]

/-- No number begins with another character than a digit. -/
theorem declines_number {input : List Char} (digitless : Avoids Char.isDigit input) :
    number.Declines input :=
  ((((declines_charWhere digitless).bind _).bind _).checked _).remarking _

end Grammar

end WidgetAudit
