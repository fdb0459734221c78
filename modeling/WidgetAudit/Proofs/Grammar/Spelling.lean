import WidgetAudit.Proofs.Expr.Spelling
import WidgetAudit.Proofs.Grammar.Spacing.Rules

/-!
# What readers take

A reader that accepts has come over layout and whole tokens, and what these tokens say belongs to
the value that it gives. `Spells` states this of a reader and of a relation between values and
rows of lexemes. It is kept by every combinator, so that what a rule is made of is read off the
definition of its reader, one lexeme after the other.

Two signs are tokens only because of what follows them: a slash that is followed by another one
would begin a comment, and an exclamation mark that is followed by an equality sign would be a
longer sign. No operand begins in this way, which is shown where the operands are known.
-/

namespace WidgetAudit.Grammar

open Reader

namespace Reader

variable {α β : Type}

/-- What the reader accepts is made of layout and tokens, and these say the value. -/
def Spells (reader : Reader α) (spelling : α → List Lexeme → Prop) : Prop :=
  ∀ ⦃input value rest⦄, reader.read input = .ok (value, rest) →
    ∃ tokens, Lexed input tokens rest ∧ spelling value (tokens.map Lexeme.ofToken)

/-- Lexemes that say several values, one behind the other. -/
def SpelledEach (spelling : α → List Lexeme → Prop) : List α → List Lexeme → Prop
  | [], said => said = []
  | value :: others, said =>
    ∃ own later, said = own ++ later ∧ spelling value own ∧ SpelledEach spelling others later

/-- A value that is put together from the left says the first part, and then what is added to it,
part by part. -/
theorem SpelledEach.foldl {γ : Type} {spelling : α → List Lexeme → Prop}
    {whole : γ → List Lexeme → Prop} {extend : γ → α → γ}
    (step : ∀ value part said more, whole value said → spelling part more →
      whole (extend value part) (said ++ more))
    {parts : List α} {more : List Lexeme} (each : SpelledEach spelling parts more) {value : γ}
    {said : List Lexeme} (begun : whole value said) :
    whole (parts.foldl extend value) (said ++ more) := by
  induction parts generalizing value said more with
  | nil =>
    obtain rfl : more = [] := each
    rwa [List.append_nil]
  | cons part others inductionHypothesis =>
    obtain ⟨own, later, rfl, spelled, eachOther⟩ := each
    rw [← List.append_assoc]
    exact inductionHypothesis eachOther (step value part said own begun spelled)

/-- Values that are each said in one way only are said so one behind the other. -/
theorem SpelledEach.eq_flatMap {lexemes : α → List Lexeme} {values : List α} {said : List Lexeme}
    (each : SpelledEach (fun value said => said = lexemes value) values said) :
    said = values.flatMap lexemes := by
  induction values generalizing said with
  | nil => exact each
  | cons value others inductionHypothesis =>
    obtain ⟨_, later, rfl, rfl, eachOther⟩ := each
    rw [List.flatMap_cons, inductionHypothesis eachOther]

/-! ### Combinators -/

namespace Spells

variable {spelling : α → List Lexeme → Prop} {spellingMore : β → List Lexeme → Prop}

/-- A reader that says one thing says all that follows from it. -/
theorem mono {reader : Reader α} {other : α → List Lexeme → Prop}
    (spells : reader.Spells spelling)
    (implies : ∀ value said, spelling value said → other value said) : reader.Spells other := by
  intro input value rest accepted
  obtain ⟨tokens, lexed, said⟩ := spells accepted
  exact ⟨tokens, lexed, implies value _ said⟩

/-- A reader that reads nothing takes no token. -/
protected theorem pure {value : α} (said : spelling value []) :
    (pure value : Reader α).Spells spelling := by
  rintro input _ _ ⟨⟩
  exact ⟨[], .stay input, said⟩

/-- A sequence takes what its first part takes, and then what its second part takes. -/
protected theorem bind {first : Reader α} {next : α → Reader β}
    (spells : first.Spells spelling) (nextSpells : ∀ value said, spelling value said →
      (next value).Spells fun result more => spellingMore result (said ++ more)) :
    (first >>= next).Spells spellingMore := by
  intro input result rest accepted
  obtain ⟨value, middle, begun, later⟩ := bind_accepts accepted
  obtain ⟨tokens, lexed, said⟩ := spells begun
  obtain ⟨others, onward, more⟩ := nextSpells value _ said later
  refine ⟨tokens ++ others, lexed.append onward, ?_⟩
  rw [List.map_append]
  exact more

/-- What is behind a part that says the same whatever its value is. -/
protected theorem behind {first : Reader α} {next : α → Reader β} {lexemes : List Lexeme}
    (spells : first.Spells fun _ said => said = lexemes) (nextSpells : ∀ value,
      (next value).Spells fun result more => spellingMore result (lexemes ++ more)) :
    (first >>= next).Spells spellingMore := by
  refine spells.bind ?_
  rintro value _ rfl
  exact nextSpells value

/-- A choice takes what the alternative takes that accepts. -/
protected theorem orElse {first second : Reader α} (spells : first.Spells spelling)
    (secondSpells : second.Spells spelling) : (first <|> second).Spells spelling := by
  intro input value rest accepted
  rcases orElse_accepts accepted with found | ⟨_, found⟩
  · exact spells found
  · exact secondSpells found

/-- An option takes what its reader takes, or nothing. -/
protected theorem optional {reader : Reader α} (spells : reader.Spells spelling) :
    (optional reader).Spells fun choice said =>
      choice = none ∧ said = [] ∨ ∃ value, choice = some value ∧ spelling value said := by
  intro input choice rest accepted
  rcases optional_accepts accepted with ⟨value, rfl, found⟩ | ⟨rfl, rfl, _⟩
  · obtain ⟨tokens, lexed, said⟩ := spells found
    exact ⟨tokens, lexed, .inr ⟨value, rfl, said⟩⟩
  · exact ⟨[], .stay _, .inl ⟨rfl, rfl⟩⟩

/-- Committing changes nothing about what is taken. -/
protected theorem commit {reader : Reader α} (spells : reader.Spells spelling) :
    reader.commit.Spells spelling :=
  fun _ _ _ accepted => spells (commit_accepts accepted)

/-- A remark changes nothing about what is taken. -/
protected theorem remarking {reader : Reader α} (spells : reader.Spells spelling)
    (remark : Remark) : (remarking remark reader).Spells spelling :=
  fun _ _ _ accepted => spells (remarking_accepts accepted)

/-- A check takes nothing, and may change what the lexemes are said to mean. -/
protected theorem checked {reader : Reader α} {check : α → Except (Option Pattern.Fault) β}
    (spells : reader.Spells spelling)
    (passes : ∀ value result said, check value = .ok result → spelling value said →
      spellingMore result said) : (reader.checked check).Spells spellingMore := by
  intro input result rest accepted
  obtain ⟨value, found, passed⟩ := checked_accepts accepted
  obtain ⟨tokens, lexed, said⟩ := spells found
  exact ⟨tokens, lexed, passes value result _ passed said⟩

/-- A repetition takes what its reader takes, as often as it reads. -/
protected theorem many {reader : Reader α} (spells : reader.Spells spelling)
    (consumes : reader.Consumes) : (many reader consumes).Spells (SpelledEach spelling) := by
  intro input values rest accepted
  have row := (many_accepts accepted).1
  clear accepted
  induction row with
  | stay input => exact ⟨[], .stay input, rfl⟩
  | step found _ inductionHypothesis =>
    obtain ⟨tokens, lexed, said⟩ := spells found
    obtain ⟨others, onward, more⟩ := inductionHypothesis
    refine ⟨tokens ++ others, lexed.append onward, ?_⟩
    rw [List.map_append]
    exact ⟨_, _, rfl, said, more⟩

end Spells

end Reader

/-! ### Layout and names -/

/-- Layout says nothing. -/
theorem spells_layout : layout.Spells fun _ said => said = [] := by
  intro input value rest accepted
  obtain ⟨⟨pieces, row⟩, -⟩ := layout_accepts accepted
  refine ⟨[], ?_, rfl⟩
  clear accepted
  induction row with
  | stay => exact .stay _
  | step found _ inductionHypothesis =>
    obtain ⟨piece, rfl, isPiece⟩ := layoutPiece_accepts found
    exact .layout isPiece inductionHypothesis

/-- What begins a name begins neither a quoted text nor a number. -/
theorem ofToken_name {first : Char} (start : isNameStart first = true) (later : List Char) :
    Lexeme.ofToken (first :: later) = .plain (first :: later) := by
  refine Lexeme.ofToken_plain ?_ (isDigit_of_isNameStart start) later
  rintro rfl
  exact absurd start (by decide)

/-- A name says itself. -/
theorem spells_identifier : identifier.Spells fun name said => said = [.word name] := by
  intro input name rest accepted
  obtain ⟨first, middle, firstRead, laterRead⟩ := bind_accepts accepted
  obtain ⟨others, last, othersRead, given⟩ := bind_accepts laterRead
  cases given
  obtain ⟨rfl, start⟩ := charWhere_accepts firstRead
  obtain ⟨rfl, parts, ends⟩ := run_accepts othersRead
  refine ⟨[first :: others], .token (.name start parts) ends (.stay rest), ?_⟩
  simp only [List.map_cons, List.map_nil, ofToken_name start, Lexeme.word, String.toList_ofList]

/-- A keyword says itself. -/
theorem spells_keyword (word : String) :
    (keyword word).Spells fun _ said => said = [.word word] := by
  intro input _ rest accepted
  obtain ⟨tokens, lexed, said⟩ := spells_identifier (keyword_accepts accepted)
  exact ⟨tokens, lexed, said⟩

/-! ### Signs -/

/-- What begins with a sign says its spelling. -/
theorem ofToken_sign {first : Char} (sign : isSign first = true) (later : List Char) :
    Lexeme.ofToken (first :: later) = .plain (first :: later) := by
  refine Lexeme.ofToken_plain ?_ ?_ later
  · rintro rfl
    exact absurd sign (by decide)
  · rw [Bool.eq_false_iff]
    intro digit
    exact absurd sign (by simp [isSign_of_isDigit digit])

/-- Whether a sign is a token of its own whatever stands behind it: it begins no longer sign and no
comment. -/
def isLone (char : Char) : Bool :=
  isSign char && ((signPairs.all fun pair => pair.1 != char) && char != '/')

/-- Such a sign ends in front of everything. -/
theorem ends_of_isLone {char : Char} (lone : isLone char = true) (behind : List Char) :
    isSign char = true ∧ Avoids (joins char) behind := by
  obtain ⟨sign, noPair, noSlash⟩ : isSign char = true ∧
      (signPairs.all fun pair => pair.1 != char) = true ∧ char ≠ '/' := by
    simpa only [isLone, Bool.and_eq_true, bne_iff_ne] using lone
  exact ⟨sign, avoids_joins noPair noSlash behind⟩

/-- A sign that begins no longer one says itself. -/
theorem spells_char {wanted : Char} (lone : isLone wanted = true) :
    (char wanted).Spells fun _ said => said = [.sign wanted] := by
  intro input _ rest accepted
  obtain rfl := char_accepts accepted
  obtain ⟨sign, ends⟩ := ends_of_isLone lone rest
  refine ⟨[[wanted]], .token (.single sign) ends (.stay rest), ?_⟩
  simp only [List.map_cons, List.map_nil, ofToken_sign sign, Lexeme.sign]

/-- A sign that begins no longer one is a lexeme. -/
theorem spells_sign {wanted : Char} (lone : isLone wanted = true) :
    (Grammar.sign wanted).Spells fun _ said => said = [.sign wanted] := by
  refine spells_layout.behind fun _ => ?_
  refine (spells_char lone).behind fun _ => ?_
  exact .pure rfl

/-- A sign of two characters says itself. -/
theorem spells_text_pair {wanted : String} {first second : Char}
    (form : wanted.toList = [first, second]) (listed : (first, second) ∈ signPairs) :
    (Reader.text wanted).Spells fun _ said => said = [.word wanted] := by
  intro input _ rest accepted
  obtain rfl := text_accepts accepted
  rw [form]
  refine ⟨[[first, second]], .token (.pair listed) trivial (.stay rest), ?_⟩
  simp only [List.map_cons, List.map_nil, ofToken_sign (isSign_of_mem_signPairs listed).1,
    Lexeme.word, form]

/-! ### Literals -/

/-- A quoted text says its content. -/
theorem spells_quoted : quoted.Spells fun content said => said = [.text content] := by
  intro input content rest accepted
  obtain ⟨body, rfl, found⟩ := quoted_accepts accepted
  obtain ⟨taken, rfl, closed⟩ := body?_taken found
  refine ⟨['"' :: taken], .token (.quoted closed) trivial (.stay rest), ?_⟩
  simp only [List.map_cons, List.map_nil, Lexeme.ofToken_quoted closed, String.ofList_toList]

/-- A point with no fraction behind it has no digit behind it. -/
theorem fraction_declines {later : List Char} (declines : fraction.Declines ('.' :: later)) :
    Avoids Char.isDigit later := by
  rcases bind_declines declines with atPoint | ⟨_, _, pointRead, atDigits⟩
  · exact absurd (charWhere_declines atPoint '.' later rfl) (by decide)
  · cases char_accepts pointRead
    rcases bind_declines atDigits with atFirst | ⟨_, _, _, refusal, refused, _⟩
    · exact charWhere_declines atFirst
    · cases refused

/-- Digits say a number, and no truth value. -/
theorem lexeme_of_numberValue {whole : List Char} {places : Option (List Char)} {value : Value}
    (meaning : numberValue whole places = some value) : value.lexeme = .literal value := by
  have floats {number : Binary64} (given :
      (if number.isFinite then some (Value.float number) else none) = some value) :
      value.lexeme = .literal value := by
    split at given
    · cases given
      rfl
    · cases given
  unfold numberValue at meaning
  cases places with
  | some places => exact floats meaning
  | none =>
    dsimp only at meaning
    split at meaning
    · cases meaning
      rfl
    · exact floats meaning

/-- Digits say their value. A point belongs to them only in front of another digit. -/
theorem spells_number : number.Spells fun value said => said = [value.lexeme] := by
  intro input value rest accepted
  obtain ⟨⟨whole, places⟩, digitsRead, passes⟩ := checked_accepts (remarking_accepts accepted)
  obtain ⟨_, middle, wholeRead, laterRead⟩ := bind_accepts digitsRead
  obtain ⟨_, last, placesRead, given⟩ := bind_accepts laterRead
  cases given
  obtain ⟨nonempty, rfl, areDigits, ends⟩ := run1_accepts wholeRead
  have meaning : numberValue whole places = some value := by
    split at passes
    · rename_i found same
      cases passes
      exact same
    · cases passes
  rcases optional_accepts placesRead with ⟨digits, rfl, fractionRead⟩ | ⟨rfl, rfl, declines⟩
  · obtain ⟨_, behind, pointRead, runRead⟩ := bind_accepts fractionRead
    obtain rfl := char_accepts pointRead
    obtain ⟨placesNonempty, rfl, placesAreDigits, placesEnd⟩ := run1_accepts runRead
    have token := IsToken.fraction nonempty areDigits placesNonempty placesAreDigits
    have point : Avoids Char.isDigit ('.' :: digits) := avoids_cons rfl digits
    refine ⟨[whole ++ '.' :: digits], ?_, ?_⟩
    · rw [← List.cons_append, ← List.append_assoc]
      exact .token token placesEnd (.stay rest)
    · change List.map Lexeme.ofToken [whole ++ '.' :: digits] = [value.lexeme]
      rw [List.map_singleton, Lexeme.ofToken_number nonempty areDigits point meaning,
        lexeme_of_numberValue meaning]
  · have noFraction : ∀ later, rest = '.' :: later → Avoids Char.isDigit later := by
      rintro later rfl
      exact fraction_declines declines
    have nothing : Avoids Char.isDigit [] := by
      rintro _ _ ⟨⟩
    have said := Lexeme.ofToken_number nonempty areDigits nothing meaning
    refine ⟨[whole], .token (.whole nonempty areDigits) ⟨ends, noFraction⟩ (.stay rest), ?_⟩
    rw [List.append_nil] at said
    change List.map Lexeme.ofToken [whole] = [value.lexeme]
    rw [List.map_singleton, said, lexeme_of_numberValue meaning]

end WidgetAudit.Grammar
