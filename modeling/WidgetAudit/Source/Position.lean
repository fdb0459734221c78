/-!
# Positions in a text

A place in a text is known by the characters before it. Editors want it as a line and a
column, both counted from one, and programs as an offset in bytes of UTF-8. Not every offset
is a place, since a character may take several bytes.
-/

namespace WidgetAudit.Source

/-- The number of bytes that characters take in UTF-8. -/
def byteLength (text : List Char) : Nat :=
  text.foldr (fun char length => char.utf8Size + length) 0

/-- A place in a text. -/
structure Position where
  offset : Nat
  line : Nat
  column : Nat
deriving DecidableEq

/-- The place behind some characters: the line is one more than their newlines, and the
column one more than the characters behind the last of these. -/
def Position.behind (before : List Char) : Position where
  offset := byteLength before
  line := before.count '\n' + 1
  column := (before.reverse.takeWhile (· != '\n')).length + 1

/-- Two texts together are as long as both. -/
@[simp] theorem byteLength_append (first second : List Char) :
    byteLength (first ++ second) = byteLength first + byteLength second := by
  induction first with
  | nil => simp [byteLength]
  | cons char rest ih => simp_all [byteLength, Nat.add_assoc]

/-- What follows an offset, if a character begins there or the text ends. -/
def behindOffset? : List Char → Nat → Option (List Char)
  | text, 0 => some text
  | [], _ + 1 => none
  | char :: rest, offset + 1 =>
    if char.utf8Size ≤ offset + 1 then behindOffset? rest (offset + 1 - char.utf8Size) else none

/-- The place at an offset. An offset behind the end of the text counts as the end, and one
inside a character is given the line and the column of the end. -/
def Position.ofOffset (text : List Char) (offset : Nat) : Position :=
  let within := min offset (byteLength text)
  let rest := (behindOffset? text within).getD []
  { Position.behind (text.take (text.length - rest.length)) with offset := within }

/-- An offset between two characters is known by the characters in front of it. -/
theorem behindOffset?_byteLength (before rest : List Char) :
    behindOffset? (before ++ rest) (byteLength before) = some rest := by
  induction before with
  | nil => simp [byteLength, behindOffset?]
  | cons char later ih =>
    obtain ⟨offset, length⟩ : ∃ offset, char.utf8Size + byteLength later = offset + 1 :=
      Nat.exists_eq_succ_of_ne_zero (by have := char.utf8Size_pos; omega)
    have left : offset + 1 - char.utf8Size = byteLength later := by omega
    change behindOffset? (char :: (later ++ rest)) (char.utf8Size + byteLength later) = _
    rw [length, behindOffset?, if_pos (by omega), left, ih]

/-- The place at an offset between two characters is the one behind the first. -/
theorem Position.ofOffset_byteLength (before rest : List Char) :
    ofOffset (before ++ rest) (byteLength before) = behind before := by
  have within : min (byteLength before) (byteLength (before ++ rest)) = byteLength before := by
    rw [byteLength_append]
    omega
  have length : (before ++ rest).length - rest.length = before.length := by simp
  simp only [ofOffset, within, behindOffset?_byteLength, Option.getD_some, length, List.take_left]
  rfl

end WidgetAudit.Source
