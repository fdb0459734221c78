import WidgetAudit.Pattern

/-!
# Readers

A reader takes something off the front of a text, or refuses. A refusal says where it
stopped, what was being read there, and whether another alternative may still be
tried: a tentative refusal lets a choice go on and ends a repetition, a final one ends
the whole reading. A third kind says that parentheses nest deeper than the reader was
prepared for; nothing catches it.

The combinators fix how positions and remarks travel. A sequence stops where its failing
part stopped; a choice starts each alternative anew and, when all refuse, keeps the
refusal of the last one; an option and a repetition forget a tentative refusal together
with all that it had read. A remark is added to every refusal that passes the reader it
is attached to, so the remarks of a refusal stand innermost first.

That a reader leaves an end of the text, whether it has read something or refused, is part
of its type, so a place in a text can be told from what is left there. A repetition ends
because it takes only readers that read something.
-/

namespace WidgetAudit.Grammar

/-- A remark on a refusal: what was being read, or what would have been accepted. -/
inductive Remark
  | reading (construct : String)
  | wantedText (text : String)
  | wanted (description : String)
deriving DecidableEq

/-- How far a refusal reaches. -/
inductive Severity
  | tentative
  | final
  | overNested
deriving DecidableEq

/-- Why a reading stopped: the text that was left, the remarks, and the fault of a
pattern if it was one that stopped it. -/
structure Refusal where
  severity : Severity
  rest : List Char
  remarks : List Remark
  fault : Option Pattern.Fault

/-- A refusal without remarks, which may be caught. -/
def Refusal.at (rest : List Char) : Refusal := ⟨.tentative, rest, [], none⟩

/-- What a reading comes to: a value and the text behind it, or a refusal. -/
abbrev Reply (α : Type) := Except Refusal (α × List Char)

/-- The text that is left after a reading. -/
def Reply.left {α : Type} : Reply α → List Char
  | .ok (_, rest) => rest
  | .error refusal => refusal.rest

/-- A reader of values. -/
structure Reader (α : Type) where
  read : List Char → Reply α
  left_isSuffix : ∀ input, (read input).left <:+ input

namespace Reader

variable {α β : Type}

/-! ### Sequences -/

/-- Read nothing and give a value. -/
def done (value : α) : Reader α where
  read input := .ok (value, input)
  left_isSuffix _ := List.suffix_rfl

/-- Read with one reader and go on with the reader that its value selects. -/
def andThen (first : Reader α) (next : α → Reader β) : Reader β where
  read input :=
    match first.read input with
    | .ok (value, rest) => (next value).read rest
    | .error refusal => .error refusal
  left_isSuffix input := by
    have atFirst := first.left_isSuffix input
    revert atFirst
    cases first.read input with
    | error refusal => exact id
    | ok found => exact ((next found.1).left_isSuffix found.2).trans

instance : Monad Reader where
  pure := done
  bind := andThen

/-! ### Single steps -/

/-- The reader for an expression that stands too deep. -/
def overNested : Reader α where
  read input := .error ⟨.overNested, input, [], none⟩
  left_isSuffix _ := List.suffix_rfl

/-- The next character, if it has a property. -/
def charWhere (test : Char → Bool) : Reader Char where
  read input :=
    match input with
    | [] => .error (.at [])
    | char :: rest => if test char then .ok (char, rest) else .error (.at (char :: rest))
  left_isSuffix input := by
    cases input with
    | nil => exact List.suffix_rfl
    | cons char rest =>
      by_cases passes : test char = true
      · simp [passes, Reply.left]
      · simp [passes, Reply.left, Refusal.at]

/-- A given character. -/
def char (wanted : Char) : Reader Char := charWhere (· == wanted)

/-- A given text; nothing is read of a text that only begins like it. -/
def text (wanted : String) : Reader Unit where
  read input :=
    if wanted.toList.isPrefixOf input then .ok ((), input.drop wanted.toList.length)
    else .error (.at input)
  left_isSuffix input := by
    split
    · exact List.drop_suffix ..
    · exact List.suffix_rfl

/-- The longest run of characters with a property, which may be empty. -/
def run (test : Char → Bool) : Reader (List Char) where
  read input := .ok (input.takeWhile test, input.dropWhile test)
  left_isSuffix _ := List.dropWhile_suffix _

/-- The longest run of characters with a property, which may not be empty. -/
def run1 (test : Char → Bool) : Reader (List Char) := do
  let first ← charWhere test
  let others ← run test
  return first :: others

/-- Nothing may be left. -/
def finish : Reader Unit where
  read input := if input.isEmpty then .ok ((), []) else .error (.at input)
  left_isSuffix input := by
    split
    · exact List.nil_suffix
    · exact List.suffix_rfl

/-! ### Choices -/

/-- Read with the first reader, or with the second one if the first refuses
tentatively. -/
def orElse (first second : Reader α) : Reader α where
  read input :=
    match first.read input with
    | .ok found => .ok found
    | .error refusal =>
      if refusal.severity = .tentative then second.read input else .error refusal
  left_isSuffix input := by
    have atFirst := first.left_isSuffix input
    revert atFirst
    cases first.read input with
    | ok found => exact id
    | error refusal =>
      intro atFirst
      dsimp only
      split
      · exact second.left_isSuffix input
      · exact atFirst

instance : OrElse (Reader α) where
  orElse first second := orElse first (second ())

/-- Read if possible. -/
def optional (reader : Reader α) : Reader (Option α) where
  read input :=
    match reader.read input with
    | .ok (value, rest) => .ok (some value, rest)
    | .error refusal =>
      if refusal.severity = .tentative then .ok (none, input) else .error refusal
  left_isSuffix input := by
    have atReader := reader.left_isSuffix input
    revert atReader
    cases reader.read input with
    | ok found => exact id
    | error refusal =>
      intro atReader
      dsimp only
      split
      · exact List.suffix_rfl
      · exact atReader

/-! ### Refusals -/

/-- Change every refusal, but not the place where it stopped. -/
def onRefusal (reader : Reader α) (severity : Severity → Severity)
    (remarks : List Remark → List Remark) : Reader α where
  read input :=
    match reader.read input with
    | .ok found => .ok found
    | .error refusal =>
      .error ⟨severity refusal.severity, refusal.rest, remarks refusal.remarks, refusal.fault⟩
  left_isSuffix input := by
    have atReader := reader.left_isSuffix input
    revert atReader
    cases reader.read input <;> exact id

/-- Make every tentative refusal final: nothing else can stand here. -/
def commit (reader : Reader α) : Reader α :=
  reader.onRefusal (fun severity => if severity = .tentative then .final else severity) id

/-- Add a remark to every refusal. -/
def remarking (remark : Remark) (reader : Reader α) : Reader α :=
  reader.onRefusal id (· ++ [remark])

/-- Read and turn the value into another one. A value that has none is refused, at the
place where it began, with the fault that stands for it. -/
def checked (reader : Reader α) (check : α → Except (Option Pattern.Fault) β) : Reader β where
  read input :=
    match reader.read input with
    | .ok (value, rest) =>
      match check value with
      | .ok result => .ok (result, rest)
      | .error fault => .error ⟨.tentative, input, [], fault⟩
    | .error refusal => .error refusal
  left_isSuffix input := by
    have atReader := reader.left_isSuffix input
    revert atReader
    cases reader.read input with
    | error refusal => exact id
    | ok found =>
      intro atReader
      dsimp only
      split
      · exact atReader
      · exact List.suffix_rfl

/-- Read a value that has to pass a test. -/
def filtered (reader : Reader α) (test : α → Bool) : Reader α :=
  reader.checked fun value => if test value then .ok value else .error none

/-! ### Readers that read something

A repetition of a reader that can accept without reading would never end, so `many` asks for
a proof that its reader reads something. -/

/-- Whether a reader leaves less than there was whenever it accepts. -/
def Consumes (reader : Reader α) : Prop :=
  ∀ ⦃input value rest⦄, reader.read input = .ok (value, rest) → rest.length < input.length

/-- Whatever the test, one character is read. -/
theorem consumes_charWhere (test : Char → Bool) : (charWhere test).Consumes := by
  intro input value rest accepted
  cases input with
  | nil => cases accepted
  | cons char following =>
    by_cases passes : test char = true
    · simp_all [charWhere]
    · simp [charWhere, passes] at accepted

/-- A given character is read. -/
theorem consumes_char (wanted : Char) : (char wanted).Consumes := consumes_charWhere _

/-- A given text reads something unless it is empty. -/
theorem consumes_text {wanted : String} (nonempty : wanted.toList ≠ []) :
    (text wanted).Consumes := by
  intro input value rest accepted
  simp only [text] at accepted
  split at accepted
  · rename_i starts
    cases accepted
    have longEnough := (List.isPrefixOf_iff_prefix.mp starts).length_le
    have positive := List.length_pos_iff.mpr nonempty
    simp only [List.length_drop]
    omega
  · cases accepted

/-- A sequence reads something if its first part does. -/
theorem Consumes.bind {first : Reader α} (consumes : first.Consumes) (next : α → Reader β) :
    (first >>= next).Consumes := by
  intro input value rest accepted
  change (andThen first next).read input = _ at accepted
  simp only [andThen] at accepted
  split at accepted
  · rename_i middle between begun
    have suffix := (next middle).left_isSuffix between
    rw [accepted] at suffix
    exact Nat.lt_of_le_of_lt suffix.length_le (consumes begun)
  · cases accepted

/-- A sequence reads something if its second part always does. -/
theorem consumes_bind_next (first : Reader α) {next : α → Reader β}
    (consumes : ∀ value, (next value).Consumes) : (first >>= next).Consumes := by
  intro input value rest accepted
  change (andThen first next).read input = _ at accepted
  simp only [andThen] at accepted
  split at accepted
  · rename_i middle between begun
    have suffix := first.left_isSuffix input
    rw [begun] at suffix
    exact Nat.lt_of_lt_of_le (consumes middle accepted) suffix.length_le
  · cases accepted

/-- A run that may not be empty reads at least its first character. -/
theorem consumes_run1 (test : Char → Bool) : (run1 test).Consumes :=
  (consumes_charWhere test).bind _

/-- A choice reads something if both alternatives do. -/
theorem Consumes.orElse {first second : Reader α} (firstConsumes : first.Consumes)
    (secondConsumes : second.Consumes) : (first <|> second).Consumes := by
  intro input value rest accepted
  change (Reader.orElse first second).read input = _ at accepted
  simp only [Reader.orElse] at accepted
  split at accepted
  · rename_i found
    cases accepted
    exact firstConsumes found
  · split at accepted
    · exact secondConsumes accepted
    · cases accepted

/-- How refusals are reported makes no difference to what is read. -/
theorem Consumes.onRefusal {reader : Reader α} (consumes : reader.Consumes)
    (severity : Severity → Severity) (remarks : List Remark → List Remark) :
    (reader.onRefusal severity remarks).Consumes := by
  intro input value rest accepted
  simp only [Reader.onRefusal] at accepted
  split at accepted
  · rename_i found
    cases accepted
    exact consumes found
  · cases accepted

/-- A remark on refusals makes no difference to what is read. -/
theorem Consumes.remarking {reader : Reader α} (consumes : reader.Consumes) (remark : Remark) :
    (reader.remarking remark).Consumes := consumes.onRefusal _ _

/-- A reader whose value is checked reads as much where the check passes. -/
theorem Consumes.checked {reader : Reader α} (consumes : reader.Consumes)
    (check : α → Except (Option Pattern.Fault) β) : (reader.checked check).Consumes := by
  intro input value rest accepted
  simp only [Reader.checked] at accepted
  split at accepted
  · rename_i found
    split at accepted
    · cases accepted
      exact consumes found
    · cases accepted
  · cases accepted

/-- A reader whose value is tested reads as much where the test passes. -/
theorem Consumes.filtered {reader : Reader α} (consumes : reader.Consumes) (test : α → Bool) :
    (reader.filtered test).Consumes := consumes.checked _

/-! ### Repetitions -/

/-- Read as often as possible from a text on. -/
def manyFrom (reader : Reader α) (consumes : reader.Consumes) (input : List Char) :
    Reply (List α) :=
  match _ : reader.read input with
  | .ok (value, rest) =>
    match manyFrom reader consumes rest with
    | .ok (values, last) => .ok (value :: values, last)
    | .error refusal => .error refusal
  | .error refusal =>
    if refusal.severity = .tentative then .ok ([], input) else .error refusal
termination_by input.length
decreasing_by exact consumes ‹reader.read input = _›

/-- What a repetition leaves is an end of the text. -/
theorem manyFrom_left_isSuffix (reader : Reader α) (consumes : reader.Consumes)
    (input : List Char) : (manyFrom reader consumes input).left <:+ input := by
  induction size : input.length using Nat.strongRecOn generalizing input with
  | _ count ih =>
    subst size
    have suffix := reader.left_isSuffix input
    rw [manyFrom]
    split
    · rename_i value rest reply
      rw [reply] at suffix
      have later := ih rest.length (consumes reply) rest rfl
      revert later
      cases manyFrom reader consumes rest with
      | ok found => exact fun later => later.trans suffix
      | error refusal => exact fun later => later.trans suffix
    · rename_i refusal reply
      rw [reply] at suffix
      split
      · exact List.suffix_rfl
      · exact suffix

/-- Read as often as possible. -/
def many (reader : Reader α) (consumes : reader.Consumes) : Reader (List α) where
  read := manyFrom reader consumes
  left_isSuffix := manyFrom_left_isSuffix reader consumes

/-- Read as often as possible, but not more often than a limit. -/
def manyUpTo (reader : Reader α) : Nat → Reader (List α)
  | 0 => done []
  | limit + 1 => do
    match ← optional reader with
    | some value =>
      let values ← manyUpTo reader limit
      return value :: values
    | none => return []

end Reader

end WidgetAudit.Grammar
