import WidgetAudit.Proofs.Grammar.Tokens

/-!
# Readers that take tokens

Most of the smallest readers look at a text token by token: what such a reader makes of a token, it
makes of it in front of every text where the token ends. A sign that begins a longer one is the
exception. It is read like a token only behind the longer sign, as the operators of order are, or
it leaves the rest of a token, as the sign of negation does.
-/

namespace WidgetAudit.Grammar

open Reader

namespace Reader

variable {α β : Type}

/-- A reader that looks at a text token by token: it accepts a token in front of every text where
the token ends, with the same value, or declines it in front of each. A point is not accepted; what
may stand behind it is for the reader to say that takes it. -/
def Tokenwise (reader : Reader α) : Prop :=
  ∀ ⦃token ends⦄, IsToken token ends →
    (∃ value, token ≠ ['.'] ∧
      ∀ behind, ends behind → reader.read (token ++ behind) = .ok (value, behind)) ∨
    ∀ behind, ends behind → reader.Declines (token ++ behind)

namespace Tokenwise

/-- What is made of the value makes no difference. -/
protected theorem map {reader : Reader α} (tokenwise : reader.Tokenwise) (result : α → β) :
    (reader >>= fun value => pure (result value)).Tokenwise := by
  intro token ends isToken
  obtain ⟨value, noPoint, accepts⟩ | declines := tokenwise isToken
  · exact .inl ⟨result value, noPoint, fun behind ended => read_map (accepts behind ended) result⟩
  · exact .inr fun behind ended => (declines behind ended).bind _

/-- A choice looks at the text token by token if both alternatives do. -/
protected theorem orElse {first second : Reader α} (tokenwise : first.Tokenwise)
    (secondTokenwise : second.Tokenwise) : (first <|> second).Tokenwise := by
  intro token ends isToken
  obtain ⟨value, noPoint, accepts⟩ | declines := tokenwise isToken
  · exact .inl ⟨value, noPoint, fun behind ended => read_orElse (accepts behind ended) second⟩
  obtain ⟨value, noPoint, accepts⟩ | secondDeclines := secondTokenwise isToken
  · refine .inl ⟨value, noPoint, fun behind ended => ?_⟩
    rw [(declines behind ended).read_orElse]
    exact accepts behind ended
  · exact .inr fun behind ended => (declines behind ended).orElse (secondDeclines behind ended)

/-- A remark makes no difference. -/
protected theorem remarking {reader : Reader α} (tokenwise : reader.Tokenwise)
    (remark : Remark) : (Reader.remarking remark reader).Tokenwise := by
  intro token ends isToken
  obtain ⟨value, noPoint, accepts⟩ | declines := tokenwise isToken
  · exact .inl ⟨value, noPoint, fun behind ended => read_remarking (accepts behind ended) remark⟩
  · exact .inr fun behind ended => (declines behind ended).remarking remark

/-- A check makes none either: the value of a token is the same in front of every text. -/
protected theorem checked {reader : Reader α} (tokenwise : reader.Tokenwise)
    (check : α → Except (Option Pattern.Fault) β) : (reader.checked check).Tokenwise := by
  intro token ends isToken
  obtain ⟨value, noPoint, accepts⟩ | declines := tokenwise isToken
  · cases verdict : check value with
    | ok result =>
      exact .inl ⟨result, noPoint, fun behind ended => read_checked (accepts behind ended) verdict⟩
    | error fault =>
      refine .inr fun behind ended => ⟨⟨.tentative, token ++ behind, [], fault⟩, ?_, rfl⟩
      simp only [Reader.checked, accepts behind ended, verdict]
  · exact .inr fun behind ended => (declines behind ended).checked check

end Tokenwise

end Reader

/-! ### Names and literals -/

/-- Among the tokens a name is read, and everything else is declined by its first character. -/
theorem tokenwise_identifier : identifier.Tokenwise := by
  have noName (char : Char) (digit : char.isDigit = true) : isNameStart char = false := by
    rw [Bool.eq_false_iff]
    intro start
    exact absurd digit (by simp [isDigit_of_isNameStart start])
  intro token ends isToken
  cases isToken with
  | @name first others start parts =>
    refine .inl ⟨String.ofList (first :: others), ?_, fun behind ended => ?_⟩
    · rintro ⟨⟩
      exact absurd start (by decide)
    · rw [identifier, List.cons_append, read_bind (read_charWhere start _),
        read_map (read_run parts ended)]
  | whole nonempty areDigits =>
    exact .inr fun _ _ => declines_identifier (avoids_digits nonempty areDigits noName _)
  | fraction nonempty areDigits _ _ =>
    refine .inr fun behind _ => declines_identifier ?_
    rw [List.append_assoc]
    exact avoids_digits nonempty areDigits noName _
  | quoted => exact .inr fun _ _ => declines_identifier (avoids_cons (by decide) _)
  | pair listed =>
    have sign := (isSign_of_mem_signPairs listed).1
    exact .inr fun _ _ => declines_identifier (avoids_cons (by simp_all [isSign]) _)
  | single sign =>
    exact .inr fun _ _ => declines_identifier (avoids_cons (by simp_all [isSign]) _)

/-- A keyword is a token. -/
theorem tokenwise_keyword (word : String) : (keyword word).Tokenwise :=
  ((tokenwise_identifier.checked _).map fun _ => ()).remarking _

/-- A quoted text is a token. -/
theorem tokenwise_quoted : quoted.Tokenwise := by
  have noQuote (char : Char) (digit : char.isDigit = true) : (char == '"') = false := by
    rw [beq_eq_false_iff_ne]
    rintro rfl
    exact absurd digit (by decide)
  intro token ends isToken
  cases isToken with
  | name start _ => exact .inr fun _ _ => declines_quoted (avoids_other start (by decide) _)
  | whole nonempty areDigits =>
    exact .inr fun _ _ => declines_quoted (avoids_digits nonempty areDigits noQuote _)
  | fraction nonempty areDigits _ _ =>
    refine .inr fun behind _ => declines_quoted ?_
    rw [List.append_assoc]
    exact avoids_digits nonempty areDigits noQuote _
  | @quoted body content closed =>
    refine .inl ⟨String.ofList content, ?_, fun behind _ => ?_⟩
    · rintro ⟨⟩
    · rw [List.cons_append, read_quoted_of_body? (body?_append closed behind), List.nil_append]
  | pair listed =>
    exact .inr fun _ _ => declines_quoted
      (avoids_other (isSign_of_mem_signPairs listed).1 (by decide) _)
  | single sign => exact .inr fun _ _ => declines_quoted (avoids_other sign (by decide) _)

/-- The digits of a number are taken as far as the number reaches. Whether they have a meaning
does not depend on what follows. -/
theorem tokenwise_number : number.Tokenwise := by
  have digitsTokenwise : numberDigits.Tokenwise := by
    have declines {input : List Char} (digitless : Avoids Char.isDigit input) :
        numberDigits.Declines input := ((declines_charWhere digitless).bind _).bind _
    intro token ends isToken
    cases isToken with
    | name start _ =>
      exact .inr fun _ _ => declines (avoids_cons (isDigit_of_isNameStart start) _)
    | @whole digits nonempty areDigits =>
      refine .inl ⟨(token, none), ?_, fun behind ended => ?_⟩
      · rintro rfl
        exact absurd (areDigits '.' List.mem_cons_self) (by decide)
      · have noPlaces : fraction.Declines behind := by
          by_cases point : Avoids (· == '.') behind
          · exact (declines_char point).bind _
          · obtain ⟨char, later, rfl, isPoint⟩ := exists_of_not_avoids point
            obtain rfl := beq_iff_eq.mp isPoint
            exact declines_bind_next (read_char '.' later)
              ((declines_charWhere (ended.2 later rfl)).bind _)
        rw [numberDigits, read_bind (read_run1 nonempty areDigits ended.1),
          read_map noPlaces.read_optional]
    | @fraction whole places nonempty areDigits placesNonempty placesAreDigits =>
      refine .inl ⟨(whole, some places), ?_, fun behind ended => ?_⟩
      · intro same
        have inToken := congrArg List.length same
        have positive := List.length_pos_iff.mpr nonempty
        simp only [List.length_append, List.length_cons, List.length_nil] at inToken
        omega
      · have point : Avoids Char.isDigit ('.' :: (places ++ behind)) := avoids_cons rfl _
        have fractionRead : fraction.read ('.' :: (places ++ behind)) = .ok (places, behind) := by
          rw [fraction, read_bind (read_char '.' _),
            read_run1 placesNonempty placesAreDigits ended]
        rw [numberDigits, List.append_assoc, List.cons_append,
          read_bind (read_run1 nonempty areDigits point), read_map (read_optional fractionRead)]
    | quoted => exact .inr fun _ _ => declines (avoids_cons (by decide) _)
    | pair listed =>
      have sign := (isSign_of_mem_signPairs listed).1
      exact .inr fun _ _ => declines (avoids_cons (by simp_all [isSign]) _)
    | single sign => exact .inr fun _ _ => declines (avoids_cons (by simp_all [isSign]) _)
  exact (digitsTokenwise.checked _).remarking _

/-! ### Signs -/

/-- A sign that begins no pair is taken as a token. -/
theorem tokenwise_char {wanted : Char} (sign : isSign wanted = true)
    (lone : (signPairs.all fun pair => pair.1 != wanted) = true) (noPoint : wanted ≠ '.') :
    (char wanted).Tokenwise := by
  intro token ends isToken
  obtain another | rfl := isToken.lone_cases sign lone
  · exact .inr fun behind _ => declines_char (another behind)
  · exact .inl ⟨wanted, by simpa using noPoint, fun behind _ => read_char wanted behind⟩

/-- A text is declined where another character begins. -/
theorem declines_text_of_head {wanted : String} {first : Char} {others input : List Char}
    (form : wanted.toList = first :: others) (another : Avoids (· == first) input) :
    (Reader.text wanted).Declines input := by
  apply declines_text
  rw [form, Bool.eq_false_iff]
  intro starts
  obtain ⟨tail, rfl⟩ := List.isPrefixOf_iff_prefix.mp starts
  exact absurd (another first _ rfl) (by simp)

/-- A text of two characters is declined where another character stands in place of the second. -/
theorem declines_text_of_second {wanted : String} {first second : Char} {behind : List Char}
    (form : wanted.toList = [first, second]) (another : Avoids (· == second) behind) :
    (Reader.text wanted).Declines (first :: behind) := by
  apply declines_text
  rw [form, Bool.eq_false_iff]
  intro starts
  obtain ⟨tail, same⟩ := List.isPrefixOf_iff_prefix.mp starts
  cases same
  exact absurd (another second tail rfl) (by simp)

/-- A listed pair is not there if its first character is a token alone. -/
theorem avoids_second {first second : Char} (listed : (first, second) ∈ signPairs)
    {behind : List Char} (alone : Avoids (joins first) behind) : Avoids (· == second) behind := by
  refine alone.narrow fun char same => ?_
  obtain rfl := beq_iff_eq.mp same
  simp [joins, listed]

/-- The same sign as a text. -/
theorem tokenwise_text_single {wanted : String} {char : Char} (form : wanted.toList = [char])
    (sign : isSign char = true) (lone : (signPairs.all fun pair => pair.1 != char) = true)
    (noPoint : char ≠ '.') : (Reader.text wanted).Tokenwise := by
  intro token ends isToken
  obtain another | rfl := isToken.lone_cases sign lone
  · exact .inr fun behind _ => declines_text_of_head form (another behind)
  · refine .inl ⟨(), by simpa using noPoint, fun behind _ => ?_⟩
    rw [← form, read_text]

/-- A pair is taken as a token: where its first character is a token alone, the second one does
not stand behind it. -/
theorem tokenwise_text_pair {wanted : String} {first second : Char}
    (form : wanted.toList = [first, second]) (listed : (first, second) ∈ signPairs) :
    (Reader.text wanted).Tokenwise := by
  intro token ends isToken
  obtain another | ⟨other, otherListed, rfl⟩ | ⟨rfl, alone⟩ :=
    isToken.sign_cases (isSign_of_mem_signPairs listed).1
  · exact .inr fun behind _ => declines_text_of_head form (another behind)
  · by_cases same : other = second
    · subst same
      refine .inl ⟨(), by simp, fun behind _ => ?_⟩
      rw [← form, read_text]
    · exact .inr fun _ _ => declines_text_of_second form (avoids_char same _)
  · exact .inr fun behind ended =>
      declines_text_of_second form (avoids_second listed (alone behind ended))

/-! ### Operators -/

/-- An operator that is written as a word is a token. -/
theorem tokenwise_wordOf (operator : BinaryOperator) : (wordOf operator).Tokenwise :=
  (tokenwise_keyword _).map fun _ => operator

/-- An operator that is written as two characters is a token. -/
theorem tokenwise_signOf_pair {operator : BinaryOperator} {first second : Char}
    (form : operator.sign.toList = [first, second]) (listed : (first, second) ∈ signPairs) :
    (signOf operator).Tokenwise :=
  (tokenwise_text_pair form listed).map fun _ => operator

/-- An operator that is written as one character is a token if that begins no pair. -/
theorem tokenwise_signOf_single {operator : BinaryOperator} {char : Char}
    (form : operator.sign.toList = [char]) (sign : isSign char = true)
    (lone : (signPairs.all fun pair => pair.1 != char) = true) (noPoint : char ≠ '.') :
    (signOf operator).Tokenwise :=
  (tokenwise_text_single form sign lone noPoint).map fun _ => operator

/-- The operators of equality are tokens. -/
theorem tokenwise_equalitySign : equalitySign.Tokenwise :=
  (tokenwise_signOf_pair rfl (by decide)).orElse <|
    (tokenwise_signOf_pair rfl (by decide)).orElse <|
      (tokenwise_signOf_pair rfl (by decide)).orElse <|
        (tokenwise_wordOf _).orElse (tokenwise_wordOf _)

/-- The operators of sums are tokens. -/
theorem tokenwise_sumSign : sumSign.Tokenwise :=
  (tokenwise_signOf_single rfl (by decide) (by decide) (by decide)).orElse
    (tokenwise_signOf_single rfl (by decide) (by decide) (by decide))

/-- The operators of products are tokens: two slashes would be layout. -/
theorem tokenwise_productSign : productSign.Tokenwise :=
  (tokenwise_signOf_single rfl (by decide) (by decide) (by decide)).orElse
    (tokenwise_signOf_single rfl (by decide) (by decide) (by decide))

/-- A sign that begins one pair is not tokenwise by itself, but it is behind that pair. -/
theorem tokenwise_order {longer shorter : BinaryOperator} {first second : Char}
    (form : longer.sign.toList = [first, second]) (shortForm : shorter.sign.toList = [first])
    (listed : (first, second) ∈ signPairs) (noPoint : first ≠ '.')
    (only : (signPairs.all fun pair => pair.1 != first || pair.2 == second) = true) :
    (signOf longer <|> signOf shorter).Tokenwise := by
  intro token ends isToken
  obtain another | ⟨other, otherListed, rfl⟩ | ⟨rfl, alone⟩ :=
    isToken.sign_cases (isSign_of_mem_signPairs listed).1
  · exact .inr fun behind _ => ((declines_text_of_head form (another behind)).bind _).orElse
      ((declines_text_of_head shortForm (another behind)).bind _)
  · have same := List.all_eq_true.mp only _ otherListed
    obtain rfl : other = second := by simpa using same
    refine .inl ⟨longer, by simp, fun behind _ => read_orElse ?_ _⟩
    rw [← form]
    exact read_map (read_text _ behind) fun _ => longer
  · refine .inl ⟨shorter, by simpa using noPoint, fun behind ended => ?_⟩
    have noPair : (Reader.text longer.sign).Declines ([first] ++ behind) :=
      declines_text_of_second form (avoids_second listed (alone behind ended))
    rw [signOf, (noPair.bind _).read_orElse, ← shortForm]
    exact read_map (read_text _ behind) fun _ => shorter

/-- Choices may be grouped as one likes. -/
theorem orElse_assoc {α : Type} (first second third : Reader α) :
    (first <|> (second <|> third)) = ((first <|> second) <|> third) := by
  change Reader.orElse first (Reader.orElse second third) =
    Reader.orElse (Reader.orElse first second) third
  simp only [Reader.orElse, Reader.mk.injEq]
  funext input
  cases first.read input with
  | ok found => rfl
  | error refusal =>
    dsimp only
    split <;> rename_i tentative
    · rfl
    · simp only [tentative, if_false]

/-- The operators of order are tokens, since each shorter one is tried behind the longer one. -/
theorem tokenwise_orderSign : orderSign.Tokenwise := by
  have less : (signOf .lessOrEqual <|> signOf .less).Tokenwise :=
    tokenwise_order rfl rfl (by decide) (by decide) (by decide)
  have greater : (signOf .greaterOrEqual <|> signOf .greater).Tokenwise :=
    tokenwise_order rfl rfl (by decide) (by decide) (by decide)
  rw [orderSign, orElse_assoc]
  exact less.orElse greater

end WidgetAudit.Grammar
