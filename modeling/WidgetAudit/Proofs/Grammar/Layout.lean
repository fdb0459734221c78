import WidgetAudit.Proofs.Grammar.Inversion
import WidgetAudit.Proofs.Grammar.Lexemes

/-!
# Layout

What a piece of layout is, apart from how it is read: a row of blanks that is not followed by
another blank, or the beginning of a comment and the rest of a line. A piece is determined by
the text and by what stands behind it, because a comment is none unless its line ends in the
right way. Layout as a whole may be entered at any of its pieces.
-/

namespace WidgetAudit.Grammar

open Reader

/-- A text at the end of a line: a line break, or nothing. A carriage return alone is no line
break. -/
def EndsLine (behind : List Char) : Prop :=
  behind = [] ∨ ∃ later, behind = '\n' :: later ∨ behind = '\r' :: '\n' :: later

/-- A text without line breaks and carriage returns. -/
def IsLine (line : List Char) : Prop := ∀ char ∈ line, char ≠ '\n' ∧ char ≠ '\r'

/-- A piece of layout in front of a text: blanks, or a comment up to the end of its line. -/
inductive IsPiece : (piece behind : List Char) → Prop
  | blanks {piece behind : List Char} (nonempty : piece ≠ []) (blank : IsGap piece)
      (ends : Avoids Text.isBlank behind) : IsPiece piece behind
  | slashes {line behind : List Char} (isLine : IsLine line) (ends : EndsLine behind) :
      IsPiece ('/' :: '/' :: line) behind
  | hash {line behind : List Char} (isLine : IsLine line) (ends : EndsLine behind) :
      IsPiece ('#' :: line) behind

/-! ### The rest of a line -/

/-- The rest of a line is read up to its end. -/
theorem read_lineRest {line behind : List Char} (isLine : IsLine line)
    (ends : EndsLine behind) : lineRest.read (line ++ behind) = .ok ((), behind) := by
  have inLine : ∀ char ∈ line, (char != '\n' && char != '\r') = true := by
    simpa only [IsLine, Bool.and_eq_true, bne_iff_ne] using isLine
  have stops : Avoids (fun char => char != '\n' && char != '\r') behind := by
    rcases ends with rfl | ⟨later, rfl | rfl⟩
    · intro char later same
      cases same
    · exact avoids_cons rfl later
    · exact avoids_cons rfl _
  rw [lineRest, read_bind (read_run inLine stops)]
  rcases ends with rfl | ⟨later, rfl | rfl⟩ <;> rfl

/-- What has been read as the rest of a line is one. -/
theorem lineRest_accepts {input behind : List Char}
    (read : lineRest.read input = .ok ((), behind)) :
    ∃ line, input = line ++ behind ∧ IsLine line ∧ EndsLine behind := by
  obtain ⟨line, middle, runRead, endRead⟩ := bind_accepts read
  obtain ⟨rfl, inLine, ends⟩ := run_accepts runRead
  have isLine : IsLine line := by
    simpa only [IsLine, Bool.and_eq_true, bne_iff_ne] using inLine
  simp only [lineEnd] at endRead
  split at endRead
  · cases endRead
    exact ⟨line, rfl, isLine, .inr ⟨_, .inr rfl⟩⟩
  · cases endRead
  · rename_i noPair noReturn
    cases endRead
    refine ⟨line, rfl, isLine, ?_⟩
    cases behind with
    | nil => exact .inl rfl
    | cons first later =>
      have stops := ends first later rfl
      simp only [Bool.and_eq_false_iff, bne_eq_false_iff_eq] at stops
      rcases stops with rfl | rfl
      · exact .inr ⟨later, .inl rfl⟩
      · exact absurd rfl (noReturn later)

/-! ### One piece -/

/-- A piece of layout is read as one. -/
theorem read_layoutPiece {piece behind : List Char} (isPiece : IsPiece piece behind) :
    layoutPiece.read (piece ++ behind) = .ok ((), behind) := by
  have noBlanks {first : Char} (later : List Char) (noBlank : Text.isBlank first = false) :
      (do let _ ← run1 Text.isBlank : Reader Unit).Declines (first :: later) :=
    ((declines_charWhere (avoids_cons noBlank later)).bind _).bind _
  cases isPiece with
  | blanks nonempty blank ends =>
    exact read_orElse (read_map (read_run1 nonempty (List.all_eq_true.mp blank) ends)
      fun _ => ()) _
  | @slashes line _ isLine ends =>
    have slashesRead : (Reader.text "//").read ('/' :: '/' :: (line ++ behind)) =
        .ok ((), line ++ behind) := read_text "//" _
    refine ((noBlanks _ (by decide)).read_orElse _).trans (read_orElse ?_ _)
    exact (read_bind slashesRead _).trans (read_lineRest isLine ends)
  | @hash line _ isLine ends =>
    have noSlashes : (Reader.text "//").Declines ('#' :: (line ++ behind)) := declines_text rfl
    refine ((noBlanks _ (by decide)).read_orElse _).trans
      (((noSlashes.bind _).read_orElse _).trans ?_)
    exact (read_bind (read_char '#' _) _).trans (read_lineRest isLine ends)

/-- What has been read as a piece of layout is one. -/
theorem layoutPiece_accepts {input behind : List Char}
    (read : layoutPiece.read input = .ok ((), behind)) :
    ∃ piece, input = piece ++ behind ∧ IsPiece piece behind := by
  rcases orElse_accepts read with blanks | ⟨_, comment⟩
  · obtain ⟨taken, middle, runRead, given⟩ := bind_accepts blanks
    cases given
    obtain ⟨nonempty, rfl, blank, ends⟩ := run1_accepts runRead
    exact ⟨taken, rfl, .blanks nonempty (List.all_eq_true.mpr blank) ends⟩
  · rcases orElse_accepts comment with slashes | ⟨_, hash⟩
    · obtain ⟨_, middle, textRead, lineRead⟩ := bind_accepts slashes
      cases text_accepts textRead
      obtain ⟨line, rfl, isLine, ends⟩ := lineRest_accepts lineRead
      exact ⟨_, rfl, .slashes isLine ends⟩
    · obtain ⟨_, middle, charRead, lineRead⟩ := bind_accepts hash
      cases char_accepts charRead
      obtain ⟨line, rfl, isLine, ends⟩ := lineRest_accepts lineRead
      exact ⟨_, rfl, .hash isLine ends⟩

/-- Where no piece of layout begins, no blank stands. -/
theorem avoids_isBlank {input : List Char} (declines : layoutPiece.Declines input) :
    Avoids Text.isBlank input := by
  rintro first later rfl
  rw [Bool.eq_false_iff]
  intro blank
  have runRead : (run Text.isBlank).read later =
      .ok (later.takeWhile Text.isBlank, later.dropWhile Text.isBlank) := rfl
  obtain ⟨_, _, ends⟩ := run_accepts runRead
  have row : IsGap (first :: later.takeWhile Text.isBlank) := by
    simp [IsGap, blank]
  have read := read_layoutPiece (.blanks (List.cons_ne_nil _ _) row ends)
  rw [List.cons_append, List.takeWhile_append_dropWhile] at read
  obtain ⟨refusal, refused, _⟩ := declines
  cases read.symm.trans refused

/-- A piece of layout stays one when more text is added behind a text that is not empty. -/
theorem IsPiece.append {piece behind : List Char} (isPiece : IsPiece piece behind)
    (nonempty : behind ≠ []) (extra : List Char) : IsPiece piece (behind ++ extra) := by
  have endsLine (ends : EndsLine behind) : EndsLine (behind ++ extra) := by
    rcases ends with rfl | ⟨later, rfl | rfl⟩
    · exact absurd rfl nonempty
    · exact .inr ⟨later ++ extra, .inl rfl⟩
    · exact .inr ⟨later ++ extra, .inr rfl⟩
  cases isPiece with
  | blanks pieceNonempty blank ends =>
    obtain ⟨first, later, rfl⟩ := List.exists_cons_of_ne_nil nonempty
    exact .blanks pieceNonempty blank (avoids_cons (ends first later rfl) _)
  | slashes isLine ends => exact .slashes isLine (endsLine ends)
  | hash isLine ends => exact .hash isLine (endsLine ends)

/-! ### All the layout -/

/-- Layout may be entered behind its first piece. -/
theorem read_layout_piece {input behind : List Char}
    (read : layoutPiece.read input = .ok ((), behind)) :
    layout.read input = layout.read behind := by
  change (andThen (many layoutPiece consumes_layoutPiece) _).read input =
    (andThen (many layoutPiece consumes_layoutPiece) _).read behind
  simp only [andThen, read_many_step consumes_layoutPiece read]
  cases (many layoutPiece consumes_layoutPiece).read behind <;> rfl

/-- Layout is read whole: it is a row of pieces that ends where no piece begins. -/
theorem layout_accepts {input rest : List Char} (read : layout.read input = .ok ((), rest)) :
    (∃ pieces, Row layoutPiece input pieces rest) ∧ layoutPiece.Declines rest := by
  obtain ⟨pieces, middle, manyRead, given⟩ := bind_accepts read
  cases given
  obtain ⟨row, declines⟩ := many_accepts manyRead
  exact ⟨⟨pieces, row⟩, declines⟩

/-- Blanks in front do not change where layout ends. -/
theorem read_layout_gap {gap : List Char} (blank : IsGap gap) (input : List Char) :
    layout.read (gap ++ input) = layout.read input := by
  let blanks := input.takeWhile Text.isBlank
  let behind := input.dropWhile Text.isBlank
  have form : input = blanks ++ behind := List.takeWhile_append_dropWhile.symm
  have runRead : (run Text.isBlank).read input = .ok (blanks, behind) := rfl
  have ends : Avoids Text.isBlank behind := (run_accepts runRead).2.2
  have skipped {row : List Char} (isRow : IsGap row) :
      layout.read (row ++ behind) = layout.read behind := by
    by_cases empty : row = []
    · rw [empty, List.nil_append]
    · exact read_layout_piece (read_layoutPiece (.blanks empty isRow ends))
  have row : IsGap blanks := List.all_takeWhile
  have both : IsGap (gap ++ blanks) := by
    rw [IsGap, List.all_append, blank, row]
    rfl
  rw [form, ← List.append_assoc, skipped both, skipped row]

/-- A piece of layout is skipped in front of a further line as it is at the end of a text. A
comment ends there as well, and blanks may only become more. -/
theorem IsPiece.read_layout_line {piece behind : List Char} (isPiece : IsPiece piece behind)
    (later : List Char) :
    layout.read (piece ++ (behind ++ '\n' :: later)) = layout.read (behind ++ '\n' :: later) := by
  by_cases empty : behind = []
  · subst empty
    have ends : EndsLine ('\n' :: later) := .inr ⟨later, .inl rfl⟩
    cases isPiece with
    | blanks _ blank _ => exact read_layout_gap blank _
    | slashes isLine _ => exact read_layout_piece (read_layoutPiece (.slashes isLine ends))
    | hash isLine _ => exact read_layout_piece (read_layoutPiece (.hash isLine ends))
  · exact read_layout_piece (read_layoutPiece (isPiece.append empty _))

/-- What is nothing but layout may stand above a text. -/
theorem read_layout_line {above : List Char} (read : layout.read above = .ok ((), []))
    (later : List Char) : layout.read (above ++ '\n' :: later) = layout.read later := by
  obtain ⟨pieces, row⟩ := (layout_accepts read).1
  clear read
  generalize last : ([] : List Char) = rest at row
  induction row with
  | stay =>
    subst last
    have newline : IsGap ['\n'] := rfl
    exact read_layout_gap newline later
  | step found _ inductionHypothesis =>
    obtain ⟨piece, rfl, isPiece⟩ := layoutPiece_accepts found
    rw [List.append_assoc, isPiece.read_layout_line]
    exact inductionHypothesis last

end WidgetAudit.Grammar
