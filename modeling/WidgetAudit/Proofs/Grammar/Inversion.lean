import WidgetAudit.Proofs.Grammar.Reading

/-!
# What a reading tells about its parts

The laws of this module go from a combined reader to its parts: how it came about that the
whole has accepted, or refused. They are the counterpart of the laws of reading, which go from
the parts to the whole. Whatever is proved of every reading of the grammar is proved along
them, one law for each combinator.
-/

namespace WidgetAudit.Grammar.Reader

variable {α β : Type}

/-! ### Sequences -/

/-- If a sequence accepts, both parts have accepted, the second one behind the first. -/
theorem bind_accepts {first : Reader α} {next : α → Reader β} {input rest : List Char}
    {result : β} (accepted : (first >>= next).read input = .ok (result, rest)) :
    ∃ value middle, first.read input = .ok (value, middle) ∧
      (next value).read middle = .ok (result, rest) := by
  change (andThen first next).read input = _ at accepted
  simp only [andThen] at accepted
  split at accepted
  · rename_i value middle begun
    exact ⟨value, middle, begun, accepted⟩
  · cases accepted

/-- If a sequence refuses, its first part does, or the second one behind the first. -/
theorem bind_refuses {first : Reader α} {next : α → Reader β} {input : List Char}
    {refusal : Refusal} (refused : (first >>= next).read input = .error refusal) :
    first.read input = .error refusal ∨ ∃ value middle,
      first.read input = .ok (value, middle) ∧ (next value).read middle = .error refusal := by
  change (andThen first next).read input = _ at refused
  simp only [andThen] at refused
  split at refused
  · rename_i value middle begun
    exact .inr ⟨value, middle, begun, refused⟩
  · rename_i own begun
    cases refused
    exact .inl begun

/-- If a sequence declines, its first part does, or the second one behind the first. -/
theorem bind_declines {first : Reader α} {next : α → Reader β} {input : List Char}
    (declines : (first >>= next).Declines input) :
    first.Declines input ∨ ∃ value middle,
      first.read input = .ok (value, middle) ∧ (next value).Declines middle := by
  obtain ⟨refusal, refused, tentative⟩ := declines
  rcases bind_refuses refused with atFirst | ⟨value, middle, begun, atNext⟩
  · exact .inl ⟨refusal, atFirst, tentative⟩
  · exact .inr ⟨value, middle, begun, refusal, atNext, tentative⟩

/-! ### Single steps -/

/-- A character that has been read has the property. -/
theorem charWhere_accepts {test : Char → Bool} {input rest : List Char} {char : Char}
    (accepted : (charWhere test).read input = .ok (char, rest)) :
    input = char :: rest ∧ test char = true := by
  cases input with
  | nil => cases accepted
  | cons first later =>
    simp only [charWhere] at accepted
    split at accepted
    · rename_i passes
      cases accepted
      exact ⟨rfl, passes⟩
    · cases accepted

/-- A given character that has been read stood in front. -/
theorem char_accepts {wanted char : Char} {input rest : List Char}
    (accepted : (Reader.char wanted).read input = .ok (char, rest)) : input = wanted :: rest := by
  obtain ⟨form, same⟩ := charWhere_accepts accepted
  rwa [← beq_iff_eq.mp same]

/-- A character is declined at the end of the text and in front of one without the
property. -/
theorem charWhere_declines {test : Char → Bool} {input : List Char}
    (declines : (charWhere test).Declines input) : Avoids test input := by
  obtain ⟨refusal, refused, _⟩ := declines
  rintro char later rfl
  rw [Bool.eq_false_iff]
  intro passes
  cases (read_charWhere passes later).symm.trans refused

/-- A given text that has been read stood in front. -/
theorem text_accepts {wanted : String} {input rest : List Char}
    (accepted : (text wanted).read input = .ok ((), rest)) : input = wanted.toList ++ rest := by
  simp only [text] at accepted
  split at accepted
  · rename_i starts
    obtain ⟨later, rfl⟩ := List.isPrefixOf_iff_prefix.mp starts
    cases accepted
    rw [List.drop_left]
  · cases accepted

/-- A given text is declined where it does not stand. -/
theorem text_declines {wanted : String} {input : List Char}
    (declines : (text wanted).Declines input) : wanted.toList.isPrefixOf input = false := by
  obtain ⟨refusal, refused, _⟩ := declines
  rw [Bool.eq_false_iff]
  intro starts
  obtain ⟨later, rfl⟩ := List.isPrefixOf_iff_prefix.mp starts
  cases (read_text wanted later).symm.trans refused

/-- A run takes characters with the property and ends in front of one without. -/
theorem run_accepts {test : Char → Bool} {input taken rest : List Char}
    (accepted : (run test).read input = .ok (taken, rest)) :
    input = taken ++ rest ∧ (∀ char ∈ taken, test char = true) ∧ Avoids test rest := by
  cases accepted
  refine ⟨List.takeWhile_append_dropWhile.symm, List.all_eq_true.mp List.all_takeWhile, ?_⟩
  intro char later same
  have stopped := List.head?_dropWhile_not test input
  rw [same] at stopped
  exact stopped

/-- A run that may not be empty is a run that is not empty. -/
theorem run1_accepts {test : Char → Bool} {input taken rest : List Char}
    (accepted : (run1 test).read input = .ok (taken, rest)) :
    taken ≠ [] ∧ input = taken ++ rest ∧ (∀ char ∈ taken, test char = true) ∧
      Avoids test rest := by
  obtain ⟨first, middle, firstRead, laterRead⟩ := bind_accepts accepted
  obtain ⟨others, last, othersRead, given⟩ := bind_accepts laterRead
  cases given
  obtain ⟨rfl, firstPasses⟩ := charWhere_accepts firstRead
  obtain ⟨rfl, othersPass, ends⟩ := run_accepts othersRead
  refine ⟨by simp, rfl, ?_, ends⟩
  intro char member
  rcases List.mem_cons.mp member with rfl | inOthers
  · exact firstPasses
  · exact othersPass char inOthers

/-! ### Choices -/

/-- If a choice accepts, its first alternative does, or that one declines and the second one
accepts. -/
theorem orElse_accepts {first second : Reader α} {input : List Char} {found : α × List Char}
    (accepted : (first <|> second).read input = .ok found) :
    first.read input = .ok found ∨ first.Declines input ∧ second.read input = .ok found := by
  change (Reader.orElse first second).read input = _ at accepted
  simp only [Reader.orElse] at accepted
  split at accepted
  · rename_i own begun
    exact .inl (begun.trans accepted)
  · rename_i refusal refused
    split at accepted
    · rename_i tentative
      exact .inr ⟨⟨refusal, refused, tentative⟩, accepted⟩
    · cases accepted

/-- A choice refuses as one of its alternatives does. -/
theorem orElse_refuses {first second : Reader α} {input : List Char} {refusal : Refusal}
    (refused : (first <|> second).read input = .error refusal) :
    first.read input = .error refusal ∨ second.read input = .error refusal := by
  change (Reader.orElse first second).read input = _ at refused
  simp only [Reader.orElse] at refused
  split at refused
  · cases refused
  · rename_i own begun
    split at refused
    · exact .inr refused
    · exact .inl (begun.trans refused)

/-- If a choice declines, both alternatives do. -/
theorem orElse_declines {first second : Reader α} {input : List Char}
    (declines : (first <|> second).Declines input) :
    first.Declines input ∧ second.Declines input := by
  obtain ⟨refusal, refused, tentative⟩ := declines
  change (Reader.orElse first second).read input = _ at refused
  simp only [Reader.orElse] at refused
  split at refused
  · cases refused
  · rename_i own begun
    split at refused
    · rename_i ownTentative
      exact ⟨⟨own, begun, ownTentative⟩, refusal, refused, tentative⟩
    · rename_i notTentative
      cases refused
      exact absurd tentative notTentative

/-- An option has read something, or its reader declines and nothing is lost. -/
theorem optional_accepts {reader : Reader α} {input rest : List Char} {choice : Option α}
    (accepted : (optional reader).read input = .ok (choice, rest)) :
    (∃ value, choice = some value ∧ reader.read input = .ok (value, rest)) ∨
      choice = none ∧ rest = input ∧ reader.Declines input := by
  simp only [optional] at accepted
  split at accepted
  · rename_i value behind found
    cases accepted
    exact .inl ⟨value, rfl, found⟩
  · rename_i refusal refused
    split at accepted
    · rename_i tentative
      cases accepted
      exact .inr ⟨rfl, rfl, refusal, refused, tentative⟩
    · cases accepted

/-- An option refuses only as its reader does, and never tentatively. -/
theorem optional_refuses {reader : Reader α} {input : List Char} {refusal : Refusal}
    (refused : (optional reader).read input = .error refusal) :
    reader.read input = .error refusal ∧ refusal.severity ≠ .tentative := by
  simp only [optional] at refused
  split at refused
  · cases refused
  · rename_i own begun
    split at refused
    · cases refused
    · rename_i notTentative
      cases refused
      exact ⟨begun, notTentative⟩

/-! ### Refusals -/

/-- The reader asks for no more parentheses than it was given. -/
def Suffices (reader : Reader α) (input : List Char) : Prop :=
  ∀ refusal, reader.read input = .error refusal → refusal.severity ≠ .overNested

/-- What is done to refusals does not make a reader accept more. -/
theorem onRefusal_accepts {reader : Reader α} {severity : Severity → Severity}
    {remarks : List Remark → List Remark} {input : List Char} {found : α × List Char}
    (accepted : (reader.onRefusal severity remarks).read input = .ok found) :
    reader.read input = .ok found := by
  simp only [onRefusal] at accepted
  split at accepted
  · rename_i own begun
    exact begun.trans accepted
  · cases accepted

/-- A changed refusal is a refusal of the reader. -/
theorem onRefusal_refuses {reader : Reader α} {severity : Severity → Severity}
    {remarks : List Remark → List Remark} {input : List Char} {refusal : Refusal}
    (refused : (reader.onRefusal severity remarks).read input = .error refusal) :
    ∃ own, reader.read input = .error own ∧ refusal.severity = severity own.severity := by
  simp only [onRefusal] at refused
  split at refused
  · cases refused
  · rename_i own begun
    cases refused
    exact ⟨own, begun, rfl⟩

/-- A committed reader accepts what its reader accepts, and nothing else. -/
theorem commit_accepts {reader : Reader α} {input : List Char} {found : α × List Char}
    (accepted : reader.commit.read input = .ok found) : reader.read input = .ok found :=
  onRefusal_accepts accepted

/-- A committed reader never declines. -/
theorem commit_declines {reader : Reader α} {input : List Char}
    (declines : reader.commit.Declines input) : False := by
  obtain ⟨refusal, refused, tentative⟩ := declines
  obtain ⟨own, _, severity⟩ := onRefusal_refuses refused
  rw [tentative] at severity
  split at severity
  · cases severity
  · rename_i notTentative
    exact notTentative severity.symm

/-- A remark does not make a reader accept more. -/
theorem remarking_accepts {reader : Reader α} {remark : Remark} {input : List Char}
    {found : α × List Char} (accepted : (remarking remark reader).read input = .ok found) :
    reader.read input = .ok found :=
  onRefusal_accepts accepted

/-- A remark does not make a reader decline more. -/
theorem remarking_declines {reader : Reader α} {remark : Remark} {input : List Char}
    (declines : (remarking remark reader).Declines input) : reader.Declines input := by
  obtain ⟨refusal, refused, tentative⟩ := declines
  obtain ⟨own, begun, severity⟩ := onRefusal_refuses refused
  exact ⟨own, begun, severity.symm.trans tentative⟩

/-- A result of a check comes from a value that passes it. -/
theorem checked_accepts {reader : Reader α} {check : α → Except (Option Pattern.Fault) β}
    {input rest : List Char} {result : β}
    (accepted : (reader.checked check).read input = .ok (result, rest)) :
    ∃ value, reader.read input = .ok (value, rest) ∧ check value = .ok result := by
  simp only [checked] at accepted
  split at accepted
  · rename_i value behind found
    split at accepted
    · rename_i passed passes
      cases accepted
      exact ⟨value, found, passes⟩
    · cases accepted
  · cases accepted

/-- A checked reader refuses as its reader does, or declines a value that fails the check. -/
theorem checked_refuses {reader : Reader α} {check : α → Except (Option Pattern.Fault) β}
    {input : List Char} {refusal : Refusal}
    (refused : (reader.checked check).read input = .error refusal) :
    reader.read input = .error refusal ∨ refusal.severity = .tentative ∧
      ∃ value rest fault, reader.read input = .ok (value, rest) ∧ check value = .error fault := by
  simp only [checked] at refused
  split at refused
  · rename_i value behind found
    split at refused
    · cases refused
    · rename_i fault fails
      cases refused
      exact .inr ⟨rfl, value, behind, fault, found, fails⟩
  · rename_i own begun
    cases refused
    exact .inl begun

/-! ### Repetitions -/

/-- Values that are read one behind the other, from a text to what is left of it. -/
inductive Row (reader : Reader α) : (input : List Char) → List α → (rest : List Char) → Prop
  | stay (input : List Char) : Row reader input [] input
  | step {input middle rest : List Char} {value : α} {others : List α}
      (found : reader.read input = .ok (value, middle)) (onward : Row reader middle others rest) :
      Row reader input (value :: others) rest

/-- A repetition reads a row and goes on behind it. -/
theorem Row.read_many_eq {reader : Reader α} {input place : List Char} {values : List α}
    (row : Row reader input values place) (consumes : reader.Consumes) :
    (many reader consumes).read input =
      match (many reader consumes).read place with
      | .ok (others, last) => .ok (values ++ others, last)
      | .error refusal => .error refusal := by
  induction row with
  | stay input =>
    cases (many reader consumes).read input <;> rfl
  | step found _ inductionHypothesis =>
    rw [read_many_step consumes found, inductionHypothesis]
    cases (many reader consumes).read _ <;> rfl

/-- A row in front of a text that its reader declines is what a repetition reads. -/
theorem Row.read_many {reader : Reader α} {input rest : List Char} {values : List α}
    (row : Row reader input values rest) (consumes : reader.Consumes)
    (declines : reader.Declines rest) : (many reader consumes).read input = .ok (values, rest) := by
  rw [row.read_many_eq consumes, declines.read_many consumes]
  simp only [List.append_nil]

/-- A repetition has read a row and ended where its reader declines. -/
theorem many_accepts {reader : Reader α} {consumes : reader.Consumes} {input rest : List Char}
    {values : List α} (accepted : (many reader consumes).read input = .ok (values, rest)) :
    Row reader input values rest ∧ reader.Declines rest := by
  induction values generalizing input with
  | nil =>
    change manyFrom reader consumes input = _ at accepted
    rw [manyFrom] at accepted
    split at accepted
    · split at accepted <;> cases accepted
    · rename_i refusal refused
      split at accepted
      · rename_i tentative
        cases accepted
        exact ⟨.stay _, refusal, refused, tentative⟩
      · cases accepted
  | cons value others inductionHypothesis =>
    change manyFrom reader consumes input = _ at accepted
    rw [manyFrom] at accepted
    split at accepted
    · rename_i middle found
      split at accepted
      · rename_i later
        cases accepted
        obtain ⟨row, declines⟩ := inductionHypothesis later
        exact ⟨.step found row, declines⟩
      · cases accepted
    · split at accepted <;> cases accepted

/-- A repetition refuses behind a row, as its reader does there, and not tentatively. -/
theorem many_refuses {reader : Reader α} {consumes : reader.Consumes} {input : List Char}
    {refusal : Refusal} (refused : (many reader consumes).read input = .error refusal) :
    ∃ values place, Row reader input values place ∧ reader.read place = .error refusal ∧
      refusal.severity ≠ .tentative := by
  induction size : input.length using Nat.strongRecOn generalizing input with
  | _ count inductionHypothesis =>
    subst size
    change manyFrom reader consumes input = _ at refused
    rw [manyFrom] at refused
    split at refused
    · rename_i value middle found
      split at refused
      · cases refused
      · rename_i own later
        cases refused
        obtain ⟨values, place, row, atPlace⟩ :=
          inductionHypothesis middle.length (consumes found) later rfl
        exact ⟨value :: values, place, .step found row, atPlace⟩
    · rename_i own begun
      split at refused
      · cases refused
      · rename_i notTentative
        cases refused
        exact ⟨[], input, .stay input, begun, notTentative⟩

end WidgetAudit.Grammar.Reader
