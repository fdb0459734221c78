import WidgetAudit.Grammar.Reader

/-!
# What combined readers read

Every combinator has two laws here: what it reads when its parts accept, and that it
declines when its parts do. Declining is refusing tentatively, so that a choice, an option
or a repetition may go on. The laws are equations between what is read and what is left, so
a reading is followed through a definition by rewriting, one part after the other.

A level of the grammar reads an operand and then any number of further steps, each of which
changes what has been read so far. `extend` is the second half of that, started from an
expression that is already there. It lets a chain be followed from the left: one step
changes the expression, and a step that declines ends the chain.
-/

namespace WidgetAudit.Grammar.Reader

variable {α β σ : Type}

/-- A reader refuses an input tentatively. -/
def Declines (reader : Reader α) (input : List Char) : Prop :=
  ∃ refusal, reader.read input = .error refusal ∧ refusal.severity = .tentative

/-! ### Sequences -/

/-- A sequence goes on with what its first part has left. -/
theorem read_bind {first : Reader α} {input rest : List Char} {value : α}
    (begun : first.read input = .ok (value, rest)) (next : α → Reader β) :
    (first >>= next).read input = (next value).read rest := by
  change (andThen first next).read input = _
  simp only [andThen, begun]

/-- A sequence depends on a text only by what its first part makes of it. -/
theorem read_bind_congr {first : Reader α} {input other : List Char}
    (same : first.read input = first.read other) (next : α → Reader β) :
    (first >>= next).read input = (first >>= next).read other := by
  change (andThen first next).read input = (andThen first next).read other
  simp only [andThen, same]

/-- Giving a value reads nothing. -/
theorem read_pure (value : α) (input : List Char) :
    (pure value : Reader α).read input = .ok (value, input) := rfl

/-- A sequence ends with a value if its first part is all that it reads. -/
theorem read_map {first : Reader α} {input rest : List Char} {value : α}
    (begun : first.read input = .ok (value, rest)) (result : α → β) :
    (first >>= fun value => pure (result value)).read input = .ok (result value, rest) :=
  read_bind begun _

/-- A sequence declines if its first part does. -/
theorem Declines.bind {first : Reader α} {input : List Char} (declines : first.Declines input)
    (next : α → Reader β) : (first >>= next).Declines input := by
  obtain ⟨refusal, refused, tentative⟩ := declines
  refine ⟨refusal, ?_, tentative⟩
  change (andThen first next).read input = _
  simp only [andThen, refused]

/-- A sequence declines if its second part declines what the first one has left. -/
theorem declines_bind_next {first : Reader α} {input rest : List Char} {value : α}
    (begun : first.read input = .ok (value, rest)) {next : α → Reader β}
    (declines : (next value).Declines rest) : (first >>= next).Declines input := by
  obtain ⟨refusal, refused, tentative⟩ := declines
  exact ⟨refusal, (read_bind begun next).trans refused, tentative⟩

/-- A sequence refuses if its first part does. -/
theorem refuses_bind {first : Reader α} {input : List Char} {refusal : Refusal}
    (refused : first.read input = .error refusal) (next : α → Reader β) :
    (first >>= next).read input = .error refusal := by
  change (andThen first next).read input = _
  simp only [andThen, refused]

/-! ### Single steps -/

/-- No character that passes the test begins the text. -/
def Avoids (test : Char → Bool) (input : List Char) : Prop :=
  ∀ char later, input = char :: later → test char = false

/-- The first character alone decides what a text avoids. -/
theorem avoids_cons {test : Char → Bool} {char : Char} (fails : test char = false)
    (later : List Char) : Avoids test (char :: later) := by
  intro first rest same
  cases same
  exact fails

/-- A character that passes a test is none of those that fail it. -/
theorem avoids_other {test : Char → Bool} {char other : Char} (passes : test char = true)
    (fails : test other = false) (later : List Char) : Avoids (· == other) (char :: later) := by
  intro first rest same
  cases same
  rw [beq_eq_false_iff_ne]
  rintro rfl
  exact absurd passes (by simp [fails])

/-- A text that avoids a test avoids every narrower one. -/
theorem Avoids.narrow {test wider : Char → Bool} {input : List Char}
    (avoids : Avoids wider input)
    (narrower : ∀ char, test char = true → wider char = true) : Avoids test input := by
  intro char later same
  rw [Bool.eq_false_iff]
  intro passes
  exact absurd (narrower char passes) (by simp [avoids char later same])

/-- A character with the property is read. -/
theorem read_charWhere {test : Char → Bool} {char : Char} (passes : test char = true)
    (rest : List Char) : (charWhere test).read (char :: rest) = .ok (char, rest) := by
  simp only [charWhere, passes, if_true]

/-- A character without the property is declined, and so is the end of the text. -/
theorem declines_charWhere {test : Char → Bool} {input : List Char}
    (avoids : Avoids test input) : (charWhere test).Declines input := by
  cases input with
  | nil => exact ⟨_, rfl, rfl⟩
  | cons char rest =>
    refine ⟨.at (char :: rest), ?_, rfl⟩
    simp [charWhere, avoids char rest rfl]

/-- A given character is read. -/
theorem read_char (char : Char) (rest : List Char) :
    (Reader.char char).read (char :: rest) = .ok (char, rest) :=
  read_charWhere (beq_self_eq_true char) rest

/-- Another character than the given one is declined. -/
theorem declines_char {wanted : Char} {input : List Char}
    (other : Avoids (· == wanted) input) : (char wanted).Declines input :=
  declines_charWhere other

/-- A given text is read. -/
theorem read_text (wanted : String) (rest : List Char) :
    (text wanted).read (wanted.toList ++ rest) = .ok ((), rest) := by
  have starts : wanted.toList.isPrefixOf (wanted.toList ++ rest) = true :=
    List.isPrefixOf_iff_prefix.mpr (List.prefix_append _ _)
  simp only [text, starts, if_true, List.drop_left]

/-- A text that does not begin with the given one is declined. -/
theorem declines_text {wanted : String} {input : List Char}
    (differs : wanted.toList.isPrefixOf input = false) : (text wanted).Declines input := by
  refine ⟨.at input, ?_, rfl⟩
  simp only [text, differs, Bool.false_eq_true, if_false]

/-- A run takes the characters with the property up to the first one without. -/
theorem read_run {test : Char → Bool} {taken rest : List Char}
    (pass : ∀ char ∈ taken, test char = true) (ends : Avoids test rest) :
    (run test).read (taken ++ rest) = .ok (taken, rest) := by
  have stopped : rest.takeWhile test = [] ∧ rest.dropWhile test = rest := by
    cases rest with
    | nil => exact ⟨rfl, rfl⟩
    | cons char later => simp [ends char later rfl]
  simp only [run, List.takeWhile_append_of_pos pass, List.dropWhile_append_of_pos pass, stopped,
    List.append_nil]

/-- A run that may not be empty is read like one that may. -/
theorem read_run1 {test : Char → Bool} {taken rest : List Char} (nonempty : taken ≠ [])
    (pass : ∀ char ∈ taken, test char = true) (ends : Avoids test rest) :
    (run1 test).read (taken ++ rest) = .ok (taken, rest) := by
  cases taken with
  | nil => exact absurd rfl nonempty
  | cons first others =>
    have firstRead := read_charWhere (pass first List.mem_cons_self) (others ++ rest)
    have othersRead := read_run (fun char member => pass char (List.mem_cons_of_mem _ member)) ends
    rw [run1, List.cons_append, read_bind firstRead, read_map othersRead]

/-- Nothing is left at the end. -/
theorem read_finish : finish.read [] = .ok ((), []) := rfl

/-! ### Choices -/

/-- A choice takes its first alternative if that accepts. -/
theorem read_orElse {first : Reader α} {input : List Char} {found : α × List Char}
    (accepted : first.read input = .ok found) (second : Reader α) :
    (first <|> second).read input = .ok found := by
  change (Reader.orElse first second).read input = _
  simp only [Reader.orElse, accepted]

/-- A choice takes its second alternative if the first one declines. -/
theorem Declines.read_orElse {first : Reader α} {input : List Char}
    (declines : first.Declines input) (second : Reader α) :
    (first <|> second).read input = second.read input := by
  obtain ⟨refusal, refused, tentative⟩ := declines
  change (Reader.orElse first second).read input = _
  simp only [Reader.orElse, refused, tentative, if_true]

/-- A choice declines if both alternatives do. -/
theorem Declines.orElse {first second : Reader α} {input : List Char}
    (declines : first.Declines input) (secondDeclines : second.Declines input) :
    (first <|> second).Declines input := by
  obtain ⟨refusal, refused, tentative⟩ := secondDeclines
  exact ⟨refusal, (declines.read_orElse second).trans refused, tentative⟩

/-- A choice refuses if its first alternative does and leaves no other. -/
theorem refuses_orElse {first : Reader α} {input : List Char} {refusal : Refusal}
    (refused : first.read input = .error refusal) (final : refusal.severity ≠ .tentative)
    (second : Reader α) : (first <|> second).read input = .error refusal := by
  change (Reader.orElse first second).read input = _
  simp only [Reader.orElse, refused, if_neg final]

/-- An option that accepts gives its value. -/
theorem read_optional {reader : Reader α} {input rest : List Char} {value : α}
    (accepted : reader.read input = .ok (value, rest)) :
    (optional reader).read input = .ok (some value, rest) := by
  simp only [optional, accepted]

/-- An option that declines gives nothing, and nothing is lost. -/
theorem Declines.read_optional {reader : Reader α} {input : List Char}
    (declines : reader.Declines input) : (optional reader).read input = .ok (none, input) := by
  obtain ⟨refusal, refused, tentative⟩ := declines
  simp only [optional, refused, tentative, if_true]

/-- An option refuses what its reader refuses for good. -/
theorem refuses_optional {reader : Reader α} {input : List Char} {refusal : Refusal}
    (refused : reader.read input = .error refusal) (final : refusal.severity ≠ .tentative) :
    (optional reader).read input = .error refusal := by
  simp only [optional, refused, if_neg final]

/-! ### Refusals -/

/-- What is done to refusals does not touch what is accepted. -/
theorem read_onRefusal {reader : Reader α} {input : List Char} {found : α × List Char}
    (accepted : reader.read input = .ok found) (severity : Severity → Severity)
    (remarks : List Remark → List Remark) :
    (reader.onRefusal severity remarks).read input = .ok found := by
  simp only [onRefusal, accepted]

/-- A committed reader accepts what its reader accepts. -/
theorem read_commit {reader : Reader α} {input : List Char} {found : α × List Char}
    (accepted : reader.read input = .ok found) : reader.commit.read input = .ok found :=
  read_onRefusal accepted _ _

/-- A remark does not change what is accepted. -/
theorem read_remarking {reader : Reader α} {input : List Char} {found : α × List Char}
    (accepted : reader.read input = .ok found) (remark : Remark) :
    (remarking remark reader).read input = .ok found :=
  read_onRefusal accepted _ _

/-- A remark does not make a refusal final. -/
theorem Declines.remarking {reader : Reader α} {input : List Char}
    (declines : reader.Declines input) (remark : Remark) :
    (Reader.remarking remark reader).Declines input := by
  obtain ⟨refusal, refused, tentative⟩ := declines
  refine ⟨⟨refusal.severity, refusal.rest, refusal.remarks ++ [remark], refusal.fault⟩, ?_,
    tentative⟩
  simp only [Reader.remarking, onRefusal, refused, id]

/-- A value that passes the check is turned into its result. -/
theorem read_checked {reader : Reader α} {input rest : List Char} {value : α} {result : β}
    {check : α → Except (Option Pattern.Fault) β}
    (accepted : reader.read input = .ok (value, rest)) (passes : check value = .ok result) :
    (reader.checked check).read input = .ok (result, rest) := by
  simp only [checked, accepted, passes]

/-- A checked reader declines what its reader declines. -/
theorem Declines.checked {reader : Reader α} {input : List Char}
    (declines : reader.Declines input) (check : α → Except (Option Pattern.Fault) β) :
    (reader.checked check).Declines input := by
  obtain ⟨refusal, refused, tentative⟩ := declines
  refine ⟨refusal, ?_, tentative⟩
  simp only [Reader.checked, refused]

/-- A value that passes the test is kept. -/
theorem read_filtered {reader : Reader α} {input rest : List Char} {value : α}
    {test : α → Bool} (accepted : reader.read input = .ok (value, rest))
    (passes : test value = true) : (reader.filtered test).read input = .ok (value, rest) :=
  read_checked accepted (by simp only [passes, if_true])

/-- A value that fails the test is declined. -/
theorem declines_filtered {reader : Reader α} {input rest : List Char} {value : α}
    {test : α → Bool} (accepted : reader.read input = .ok (value, rest))
    (fails : test value = false) : (reader.filtered test).Declines input := by
  refine ⟨⟨.tentative, input, [], none⟩, ?_, rfl⟩
  simp [filtered, checked, accepted, fails]

/-! ### Repetitions -/

/-- A repetition that reads one more value goes on behind it. -/
theorem read_many_step {reader : Reader α} (consumes : reader.Consumes)
    {input rest : List Char} {value : α} (accepted : reader.read input = .ok (value, rest)) :
    (many reader consumes).read input =
      match (many reader consumes).read rest with
      | .ok (values, last) => .ok (value :: values, last)
      | .error refusal => .error refusal := by
  change manyFrom reader consumes input = match manyFrom reader consumes rest with
    | .ok (values, last) => .ok (value :: values, last)
    | .error refusal => .error refusal
  rw [manyFrom]
  split
  · rename_i found after reply
    obtain ⟨rfl, rfl⟩ : value = found ∧ rest = after := by
      simpa only [Except.ok.injEq, Prod.mk.injEq] using accepted.symm.trans reply
    rfl
  · rename_i refusal reply
    exact absurd (accepted.symm.trans reply) (by simp)

/-- A repetition that reads one value and then others gives all of them. -/
theorem read_many_cons {reader : Reader α} (consumes : reader.Consumes)
    {input rest last : List Char} {value : α} {values : List α}
    (accepted : reader.read input = .ok (value, rest))
    (others : (many reader consumes).read rest = .ok (values, last)) :
    (many reader consumes).read input = .ok (value :: values, last) := by
  rw [read_many_step consumes accepted, others]

/-- A repetition ends where its reader declines. -/
theorem Declines.read_many {reader : Reader α} (consumes : reader.Consumes)
    {input : List Char} (declines : reader.Declines input) :
    (many reader consumes).read input = .ok ([], input) := by
  obtain ⟨refusal, refused, tentative⟩ := declines
  change manyFrom reader consumes input = _
  rw [manyFrom]
  split
  · rename_i found after reply
    exact absurd (refused.symm.trans reply) (by simp)
  · rename_i other reply
    obtain rfl : refusal = other := Except.error.inj (refused.symm.trans reply)
    rw [if_pos tentative]

/-- A repetition refuses what its reader refuses for good. -/
theorem refuses_many {reader : Reader α} (consumes : reader.Consumes) {input : List Char}
    {refusal : Refusal} (refused : reader.read input = .error refusal)
    (final : refusal.severity ≠ .tentative) :
    (many reader consumes).read input = .error refusal := by
  change manyFrom reader consumes input = _
  rw [manyFrom]
  split
  · rename_i found after reply
    exact absurd (refused.symm.trans reply) (by simp)
  · rename_i other reply
    obtain rfl : refusal = other := Except.error.inj (refused.symm.trans reply)
    rw [if_neg final]

/-- A bounded repetition that may read one more value goes on behind it. -/
theorem read_manyUpTo_cons {reader : Reader α} {limit : Nat} {input rest last : List Char}
    {value : α} {values : List α} (accepted : reader.read input = .ok (value, rest))
    (others : (manyUpTo reader limit).read rest = .ok (values, last)) :
    (manyUpTo reader (limit + 1)).read input = .ok (value :: values, last) := by
  rw [manyUpTo, read_bind (read_optional accepted), read_map others]

/-- A bounded repetition ends where its reader declines, whatever its bound is. -/
theorem Declines.read_manyUpTo {reader : Reader α} {input : List Char}
    (declines : reader.Declines input) (limit : Nat) :
    (manyUpTo reader limit).read input = .ok ([], input) := by
  cases limit with
  | zero => rfl
  | succ limit => rw [manyUpTo, read_bind declines.read_optional, read_pure]

/-! ### Chains -/

/-- Go on from a value with as many steps as there are, each of which changes it. -/
def extend (step : Reader σ) (consumes : step.Consumes) (join : β → σ → β) (value : β)
    (input : List Char) : Reply β :=
  match (many step consumes).read input with
  | .ok (steps, last) => .ok (steps.foldl join value, last)
  | .error refusal => .error refusal

/-- A chain is read by reading its first operand and going on from there. -/
theorem read_chain {operand : Reader β} {step : Reader σ} (consumes : step.Consumes)
    (join : β → σ → β) {input rest : List Char} {first : β}
    (begun : operand.read input = .ok (first, rest)) :
    (operand >>= fun first => many step consumes >>= fun steps =>
      pure (steps.foldl join first)).read input = extend step consumes join first rest := by
  rw [read_bind begun]
  change (andThen _ _).read rest = _
  simp only [andThen, extend]
  cases (many step consumes).read rest <;> rfl

/-- One step changes the value, and the chain goes on behind it. -/
theorem extend_step {step : Reader σ} (consumes : step.Consumes) (join : β → σ → β)
    (value : β) {input rest : List Char} {found : σ}
    (accepted : step.read input = .ok (found, rest)) :
    extend step consumes join value input = extend step consumes join (join value found) rest := by
  unfold extend
  rw [read_many_step consumes accepted]
  cases (many step consumes).read rest <;> rfl

/-- A chain ends where no step can be read. -/
theorem Declines.extend {step : Reader σ} (consumes : step.Consumes) (join : β → σ → β)
    (value : β) {input : List Char} (declines : step.Declines input) :
    Reader.extend step consumes join value input = .ok (value, input) := by
  simp only [Reader.extend, declines.read_many consumes, List.foldl_nil]

end WidgetAudit.Grammar.Reader
