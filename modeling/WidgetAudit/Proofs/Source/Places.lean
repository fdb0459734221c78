import Mathlib.Data.List.DropRight
import WidgetAudit.Pattern.GapEngine
import WidgetAudit.Proofs.Source.Outcome

/-!
# Where errors are told to be

An error carries an offset for programs and a line and a column for readers. Both come from the
text in front of which the source was given up, whether the scan stopped there or the grammar did.
That text begins between two characters, so the offset never falls inside one, and the line and the
column are those of the offset and not of the end of the source.

`offsetOf?` is the way back that an editor takes: to the line, and from there over the characters in
front of the column. It undoes the way from offsets to lines and columns, and therefore no two
offsets have the same line and column.
-/

namespace WidgetAudit

namespace Source

/-! ### Offsets and characters -/

/-- The bytes of a source are those of its characters. -/
theorem byteLength_toList (source : String) : byteLength source.toList = source.utf8ByteSize := by
  have counted (text : List Char) : byteLength text = (String.ofList text).utf8ByteSize := by
    induction text with
    | nil => rfl
    | cons char rest inductionHypothesis =>
      rw [String.ofList_cons, String.utf8ByteSize_append, String.utf8ByteSize_singleton,
        ← inductionHypothesis]
      rfl
  rw [counted, String.ofList_toList]

/-- An offset is on the boundary of a character if it counts the bytes of some characters from the
beginning on. -/
theorem isValid_iff {source : String} {offset : Nat} :
    (String.Pos.Raw.mk offset).IsValid source ↔
      ∃ before rest, source.toList = before ++ rest ∧ offset = byteLength before := by
  rw [String.Pos.Raw.isValid_iff_exists_append]
  constructor
  · rintro ⟨first, second, rfl, same⟩
    refine ⟨first.toList, second.toList, String.toList_append, ?_⟩
    rw [byteLength_toList]
    exact congrArg String.Pos.Raw.byteIdx same
  · rintro ⟨before, rest, form, rfl⟩
    refine ⟨String.ofList before, String.ofList rest, ?_, ?_⟩
    · rw [← String.ofList_append, ← form, String.ofList_toList]
    · rw [String.Pos.Raw.ext_iff, String.byteIdx_rawEndPos, ← byteLength_toList,
        String.toList_ofList]

/-! ### Lines and columns -/

/-- A position stands behind complete lines, which end in newlines, and a part of the current line,
which has none. -/
structure Position.StandsBehind (position : Position) (lines current : List Char) : Prop where
  complete : lines = [] ∨ lines.getLast? = some '\n'
  unbroken : '\n' ∉ current
  offset_eq : position.offset = byteLength (lines ++ current)
  line_eq : position.line = 1 + (lines ++ current).count '\n'
  column_eq : position.column = 1 + current.length

/-- The characters in front of a place are complete lines and a part of the current one. -/
theorem Position.exists_standsBehind (before : List Char) :
    ∃ lines current, before = lines ++ current ∧ (behind before).StandsBehind lines current := by
  let lines := before.rdropWhile (· != '\n')
  let current := before.rtakeWhile (· != '\n')
  have form : lines ++ current = before := List.rdropWhile_append_rtakeWhile
  refine ⟨lines, current, form.symm, ?_⟩
  constructor
  · by_cases empty : lines = []
    · exact .inl empty
    · right
      have last := List.rdropWhile_last_not (· != '\n') before empty
      rw [List.getLast?_eq_some_getLast empty]
      simpa using last
  · intro member
    simpa using List.mem_rtakeWhile_imp member
  · rw [form]
    rfl
  · rw [form, Nat.add_comm]
    rfl
  · have length : current.length = (before.reverse.takeWhile (· != '\n')).length :=
      List.length_reverse
    rw [length, Nat.add_comm]
    rfl

/-! ### From lines and columns to offsets -/

/-- What a text leaves behind so many newlines, if it has them. -/
def behindLines? : Nat → List Char → Option (List Char)
  | 0, text => some text
  | _ + 1, [] => none
  | count + 1, char :: rest => behindLines? (if char = '\n' then count else count + 1) rest

/-- The offset of a line and a column, both counted from one. To find it one goes to the line and
skips one character less than the column says, all of them on this line. -/
def offsetOf? (text : List Char) (line column : Nat) : Option Nat := do
  let start ← behindLines? (line - 1) text
  let skipped := start.take (column - 1)
  if skipped.length = column - 1 ∧ '\n' ∉ skipped then
    some (byteLength text - byteLength (start.drop (column - 1)))
  else none

/-- Newlines that have been passed need not be counted again. -/
theorem behindLines?_append (passed rest : List Char) (count : Nat) :
    behindLines? (passed.count '\n' + (count + 1)) (passed ++ rest) =
      behindLines? (count + 1) rest := by
  induction passed with
  | nil => simp
  | cons char later inductionHypothesis =>
    by_cases newline : char = '\n'
    · subst newline
      rw [List.count_cons_self, Nat.add_right_comm, List.cons_append, behindLines?, if_pos rfl]
      exact inductionHypothesis
    · rw [List.count_cons_of_ne newline, ← Nat.add_assoc, List.cons_append, behindLines?,
        if_neg newline]
      exact inductionHypothesis

/-- Complete lines are passed by going as far as they have newlines. -/
theorem behindLines?_complete {lines : List Char}
    (complete : lines = [] ∨ lines.getLast? = some '\n') (rest : List Char) :
    behindLines? (lines.count '\n') (lines ++ rest) = some rest := by
  rcases complete with rfl | ends
  · simp [behindLines?]
  · obtain ⟨above, rfl⟩ := List.getLast?_eq_some_iff.mp ends
    rw [List.count_append, List.count_singleton_self, List.append_assoc,
      behindLines?_append above (['\n'] ++ rest) 0]
    simp [behindLines?]

/-- From the line and the column of a place one comes back to the place. -/
theorem Position.StandsBehind.offsetOf?_eq {position : Position} {lines current : List Char}
    (stands : position.StandsBehind lines current) (rest : List Char) :
    offsetOf? (lines ++ current ++ rest) position.line position.column =
      some position.offset := by
  have lineCount : position.line - 1 = lines.count '\n' := by
    rw [stands.line_eq, List.count_append, List.count_eq_zero.mpr stands.unbroken]
    omega
  have columnCount : position.column - 1 = current.length := by
    rw [stands.column_eq]
    omega
  have reached : behindLines? (lines.count '\n') (lines ++ current ++ rest) =
      some (current ++ rest) := by
    rw [List.append_assoc]
    exact behindLines?_complete stands.complete _
  have skipped : (current ++ rest).take current.length = current := List.take_left
  have behind : (current ++ rest).drop current.length = rest := List.drop_left
  have bytes : byteLength (lines ++ current ++ rest) - byteLength rest = position.offset := by
    rw [byteLength_append, Nat.add_sub_cancel, stands.offset_eq]
  rw [offsetOf?, lineCount, columnCount, reached, Option.bind_eq_bind, Option.bind_some]
  simp only [skipped, behind, bytes]
  exact if_pos ⟨trivial, stands.unbroken⟩

/-- From the line and the column at the boundary of a character one comes back to its offset. -/
theorem offsetOf?_ofOffset {source : String} {offset : Nat}
    (valid : (String.Pos.Raw.mk offset).IsValid source) :
    offsetOf? source.toList (Position.ofOffset source.toList offset).line
      (Position.ofOffset source.toList offset).column = some offset := by
  obtain ⟨before, rest, form, rfl⟩ := isValid_iff.mp valid
  obtain ⟨lines, current, rfl, stands⟩ := Position.exists_standsBehind before
  rw [form, Position.ofOffset_byteLength, stands.offsetOf?_eq]
  rfl

/-- The error about a source has the place behind the characters in front of which the source was
given up. -/
theorem exists_before_of_error {α : Type} {reader : Nat → Grammar.Reader α} {source : String}
    {error : ParseError} (refused : read reader source = .error error) :
    ∃ before rest, source.toList = before ++ rest ∧ error.position = .behind before ∧
      StopsAt reader source rest := by
  obtain ⟨rest, stops, same⟩ := exists_stopsAt_of_error refused
  obtain ⟨before, form⟩ := stops.isSuffix
  refine ⟨before, rest, form.symm, ?_, stops⟩
  rw [same, ← form, errorAt_append]

/-- What follows the offset of an error is what the source was given up in front of. -/
theorem stopsAt_of_offset {α : Type} {reader : Nat → Grammar.Reader α} {source : String}
    {error : ParseError} (refused : read reader source = .error error) {before rest : List Char}
    (form : source.toList = before ++ rest) (offset : error.position.offset = byteLength before) :
    StopsAt reader source rest := by
  obtain ⟨own, left, ownForm, place, stops⟩ := exists_before_of_error refused
  have same : byteLength own = byteLength before := by
    rw [← offset, place]
    rfl
  have ownLeft := behindOffset?_byteLength own left
  rw [← ownForm, same, form, behindOffset?_byteLength] at ownLeft
  cases ownLeft
  exact stops

end Source

/-! ### Errors -/

namespace ParseError

open Source

section AnyEngine

variable [RegexEngine]

/-- Positions of errors locate them. The offset of an error is within the source and on the boundary
of a character, and what follows it is what the source was given up in front of, by the scan or by
the grammar. The line and the column are one more than the newlines in front of the offset and than
the characters behind the last of these, and going to that line and skipping the characters in front
of that column leads back to the offset. No two offsets of a source, each on the boundary of a
character, have the same line and column. -/
theorem position_locates (source : String) :
    (∀ error, Rule.parse source = .error error ∨ Rule.parseAll source = .error error →
      error.position.offset ≤ source.utf8ByteSize ∧
      (String.Pos.Raw.mk error.position.offset).IsValid source ∧
      error.position = .ofOffset source.toList error.position.offset ∧
      (∃ lines current rest, source.toList = lines ++ current ++ rest ∧
        error.position.StandsBehind lines current ∧
        (Rule.parse source = .error error → StopsAt Grammar.oneRule source rest) ∧
        (Rule.parseAll source = .error error → StopsAt Grammar.allRules source rest)) ∧
      offsetOf? source.toList error.position.line error.position.column =
        some error.position.offset) ∧
    ∀ first second, (String.Pos.Raw.mk first).IsValid source →
      (String.Pos.Raw.mk second).IsValid source → first ≠ second →
      ((Position.ofOffset source.toList first).line,
          (Position.ofOffset source.toList first).column) ≠
        ((Position.ofOffset source.toList second).line,
          (Position.ofOffset source.toList second).column) := by
  constructor
  · intro error refused
    obtain ⟨before, rest, form, place⟩ : ∃ before rest, source.toList = before ++ rest ∧
        error.position = .behind before := by
      rcases refused with one | all
      · obtain ⟨before, rest, form, place, _⟩ := exists_before_of_error one
        exact ⟨before, rest, form, place⟩
      · obtain ⟨before, rest, form, place, _⟩ := exists_before_of_error all
        exact ⟨before, rest, form, place⟩
    have offset : error.position.offset = byteLength before := by
      rw [place]
      rfl
    have valid := isValid_iff.mpr ⟨before, rest, form, offset⟩
    have same : error.position = .ofOffset source.toList error.position.offset := by
      rw [offset, form, Position.ofOffset_byteLength, place]
    obtain ⟨lines, current, rfl, stands⟩ := Position.exists_standsBehind before
    refine ⟨?_, valid, same, ⟨lines, current, rest, form, place ▸ stands, ?_, ?_⟩, ?_⟩
    · rw [← byteLength_toList, form, byteLength_append, offset]
      omega
    · exact fun one => stopsAt_of_offset one form offset
    · exact fun all => stopsAt_of_offset all form offset
    · rw [form, place, stands.offsetOf?_eq]
  · intro first second firstValid secondValid differ same
    obtain ⟨line, column⟩ := Prod.mk.inj same
    have back := offsetOf?_ofOffset firstValid
    rw [line, column, offsetOf?_ofOffset secondValid] at back
    exact differ (Option.some.inj back).symm

/-- A source that ends inside a quoted text, behind characters of two and of three bytes. -/
def unclosedName : String := "# \u20ac\nrule \"\u00e4"

end AnyEngine

/-- The error is at the end of that source, where the quoted text is given up, and the end is found
again from its line and its column. The beginning of the second line is another place. -/
theorem position_locates_unclosedName :
    Rule.parse unclosedName = .error {
      message := "invalid string literal\nexpected quoted rule name", position := ⟨14, 2, 8⟩ } ∧
    14 ≤ unclosedName.utf8ByteSize ∧ (String.Pos.Raw.mk 14).IsValid unclosedName ∧
    StopsAt Grammar.oneRule unclosedName [] ∧
    offsetOf? unclosedName.toList 2 8 = some 14 ∧
    (String.Pos.Raw.mk 6).IsValid unclosedName ∧
    ((Position.ofOffset unclosedName.toList 6).line,
      (Position.ofOffset unclosedName.toList 6).column) ≠
        ((Position.ofOffset unclosedName.toList 14).line,
          (Position.ofOffset unclosedName.toList 14).column) := by
  have refused : Rule.parse unclosedName = .error {
      message := "invalid string literal\nexpected quoted rule name", position := ⟨14, 2, 8⟩ } := by
    decide +kernel
  have secondLine : (String.Pos.Raw.mk 6).IsValid unclosedName :=
    isValid_iff.mpr ⟨"# \u20ac\n".toList, "rule \"\u00e4".toList, by decide, by decide⟩
  obtain ⟨within, valid, _, ⟨lines, current, rest, form, stands, stops, _⟩, back⟩ :=
    (position_locates unclosedName).1 _ (.inl refused)
  have none : rest = [] := by
    have left := behindOffset?_byteLength (lines ++ current) rest
    rw [← form, ← stands.offset_eq] at left
    have atEnd : behindOffset? unclosedName.toList 14 = some [] := by decide
    exact Option.some.inj (left.symm.trans atEnd)
  refine ⟨refused, within, valid, none ▸ stops refused, back, secondLine, ?_⟩
  exact (position_locates unclosedName).2 6 14 secondLine valid (by decide)

end ParseError

end WidgetAudit
