import WidgetAudit.Proofs.Grammar.Layout
import WidgetAudit.Proofs.Source.Nesting

/-!
# The brackets of a text

`brackets` finds the round and curly brackets of a text that stand neither between quotes nor
in a comment. It takes layout and quoted texts from the grammar, so it says which brackets the
grammar can come upon; the scan for parentheses has rules of its own. `parentheses` adds to
each round one how many are open behind it, closing ones without an opening one counted
against the others.

Whatever stands in front of a text, the scan and the grammar leave a piece of layout and a
quoted text with the same parentheses ahead. They do so by different rules: the grammar stops
in front of the newline that ends a comment, or of the carriage return before it, and the scan
behind the newline.
-/

namespace WidgetAudit.Source

open Grammar Reader

/-! ### Brackets and their depths -/

/-- A round or curly bracket. -/
def isBracket (char : Char) : Bool :=
  char == '(' || char == ')' || char == '{' || char == '}'

/-- What stands behind a piece of layout, if the text begins with one. -/
@[irreducible]
def behindLayoutPiece? (text : List Char) : Option (List Char) :=
  match layoutPiece.read text with
  | .ok (_, behind) => some behind
  | .error _ => none

/-- A text begins with a piece of layout if the grammar reads one there. -/
theorem behindLayoutPiece?_eq_some_iff {text behind : List Char} :
    behindLayoutPiece? text = some behind ↔ layoutPiece.read text = .ok ((), behind) := by
  unfold behindLayoutPiece?
  cases layoutPiece.read text <;> simp [Prod.ext_iff]

/-- The brackets of a text outside quotes and comments, each as the text from it on. Behind a
quote that is never closed nothing counts, and neither does it behind the beginning of a
comment that does not end as comments do. -/
def brackets : List Char → List (List Char)
  | [] => []
  | first :: later =>
    match _ : behindLayoutPiece? (first :: later) with
    | some behind => brackets behind
    | none =>
      if first = '"' then
        match _ : Quoted.body? later with
        | some (_, behind) => brackets behind
        | none => []
      else if first = '#' ∨ first = '/' ∧ later.head? = some '/' then []
      else if isBracket first then (first :: later) :: brackets later
      else brackets later
termination_by text => text.length
decreasing_by
  · exact consumes_layoutPiece (behindLayoutPiece?_eq_some_iff.mp ‹_›)
  · exact Nat.lt_succ_of_le (Quoted.body?_isSuffix ‹_›).length_le
  · simp
  · simp

/-- The parentheses among brackets, each with the number of parentheses that are open behind
it, if so many are open in front of the first. -/
def counted (opened : Int) : List (List Char) → List (List Char × Int)
  | [] => []
  | bracket :: later =>
    match bracket.head? with
    | some '(' => (bracket, opened + 1) :: counted (opened + 1) later
    | some ')' => (bracket, opened - 1) :: counted (opened - 1) later
    | _ => counted opened later

/-- The parentheses of a text, each with the number of parentheses that are open behind it. -/
def parentheses (text : List Char) : List (List Char × Int) := counted 0 (brackets text)

/-- The greatest number of parentheses that are open at once in a text. -/
def deepest (text : List Char) : Int := ((parentheses text).map Prod.snd).foldr max 0

/-! ### What brackets are found -/

/-- Layout hides no bracket and shows none. -/
theorem brackets_layoutPiece {input behind : List Char}
    (read : layoutPiece.read input = .ok ((), behind)) : brackets input = brackets behind := by
  have found : behindLayoutPiece? input = some behind := behindLayoutPiece?_eq_some_iff.mpr read
  cases input with
  | nil => exact absurd (consumes_layoutPiece read) (Nat.not_lt_zero _)
  | cons first later =>
    rw [brackets]
    split
    · rename_i other foundOther
      rw [Option.some.inj (foundOther.symm.trans found)]
    · rename_i foundNone
      cases foundNone.symm.trans found

/-- Where no layout begins, the first character decides. -/
theorem brackets_cons {first : Char} {later : List Char}
    (declines : layoutPiece.Declines (first :: later)) :
    brackets (first :: later) =
      if first = '"' then ((Quoted.body? later).map fun found => brackets found.2).getD []
      else if first = '#' ∨ first = '/' ∧ later.head? = some '/' then []
      else if isBracket first then (first :: later) :: brackets later
      else brackets later := by
  obtain ⟨refusal, refused, _⟩ := declines
  rw [brackets]
  split
  · rename_i behind found
    cases (behindLayoutPiece?_eq_some_iff.mp found).symm.trans refused
  · split
    · split <;> rename_i reply <;> rw [reply] <;> rfl
    · rfl

/-- A quoted text hides its brackets. -/
theorem brackets_quoted {text content behind : List Char}
    (found : Quoted.body? text = some (content, behind)) :
    brackets ('"' :: text) = brackets behind := by
  have solid : IsSolid ('"' :: text) := isSolid_cons rfl text
  rw [brackets_cons solid.declines, if_pos rfl, found]
  rfl

/-- A solid character that is no quote is a bracket or shows the brackets behind it. -/
theorem brackets_solid {first : Char} {later : List Char} (solid : IsSolid (first :: later))
    (noQuote : first ≠ '"') :
    brackets (first :: later) =
      if isBracket first then (first :: later) :: brackets later else brackets later := by
  have noComment : ¬ (first = '#' ∨ first = '/' ∧ later.head? = some '/') := by
    rintro (hash | ⟨slash, another⟩)
    · exact (solid first later rfl).2.1 hash
    · obtain ⟨tail, same⟩ := List.head?_eq_some_iff.mp another
      exact (solid first later rfl).2.2 slash tail same
  rw [brackets_cons solid.declines, if_neg noQuote, if_neg noComment]

/-- A text that shows a bracket begins with layout or with something solid. -/
theorem isSolid_of_brackets {input : List Char} (declines : layoutPiece.Declines input)
    (some : brackets input ≠ []) : IsSolid input := by
  rintro first later rfl
  have shown := brackets_cons declines
  refine ⟨avoids_isBlank declines first later rfl, ?_, ?_⟩
  · rintro rfl
    exact some (shown.trans (by simp))
  · rintro rfl tail rfl
    exact some (shown.trans (by simp))

/-- A bracket is known by the text from it on. -/
theorem brackets_isSuffix {text bracket : List Char} (member : bracket ∈ brackets text) :
    bracket <:+ text := by
  fun_induction brackets text with
  | case1 => cases member
  | case2 first later behind found inductionHypothesis =>
    have read := behindLayoutPiece?_eq_some_iff.mp found
    have suffix := layoutPiece.left_isSuffix (first :: later)
    rw [read] at suffix
    exact (inductionHypothesis member).trans suffix
  | case3 later content behind found _ inductionHypothesis =>
    exact (inductionHypothesis member).trans
      ((Quoted.body?_isSuffix found).trans (List.suffix_cons ..))
  | case4 => cases member
  | case5 => cases member
  | case6 first later _ _ _ _ inductionHypothesis =>
    rcases List.mem_cons.mp member with rfl | inLater
    · exact List.suffix_rfl
    · exact (inductionHypothesis inLater).trans (List.suffix_cons ..)
  | case7 first later _ _ _ _ inductionHypothesis =>
    exact (inductionHypothesis member).trans (List.suffix_cons ..)

/-! ### What the scan makes of it -/

/-- A blank is plain. -/
theorem isPlain_of_isBlank {char : Char} (blank : Text.isBlank char = true) :
    isPlain char = true := by
  have differs : ∀ other, Text.isBlank other = false → char ≠ other := by
    rintro other no rfl
    exact absurd blank (by simp [no])
  simp only [isPlain, Bool.and_eq_true, bne_iff_ne]
  exact ⟨⟨⟨⟨differs _ (by decide), differs _ (by decide)⟩, differs _ (by decide)⟩,
    differs _ (by decide)⟩, differs _ (by decide)⟩

/-- The scan ends a comment behind its newline and the grammar in front of it, or in front of
the carriage return before it; no bracket stands between the two. -/
theorem overflow?_line {line behind : List Char} (isLine : IsLine line) (ends : EndsLine behind)
    (limit depth : Nat) :
    overflow? limit depth (behindLine (line ++ behind)) = overflow? limit depth behind := by
  have noNewline : ∀ char ∈ line, (char != '\n') = true := by
    intro char member
    exact bne_iff_ne.mpr (isLine char member).1
  rw [behindLine, List.dropWhile_append_of_pos noNewline]
  rcases ends with rfl | ⟨later, rfl | rfl⟩
  · rfl
  · exact (overflow?_plain (by decide) limit depth later).symm
  · have plain : ['\r', '\n'].all isPlain = true := by decide
    exact (overflow?_append_plain plain limit depth later).symm

/-- The scan comes through a piece of layout without a change. -/
theorem overflow?_layoutPiece {input behind : List Char}
    (read : layoutPiece.read input = .ok ((), behind)) (limit depth : Nat) :
    overflow? limit depth input = overflow? limit depth behind := by
  obtain ⟨piece, rfl, isPiece⟩ := layoutPiece_accepts read
  cases isPiece with
  | blanks _ blank _ =>
    refine overflow?_append_plain ?_ limit depth behind
    rw [List.all_eq_true]
    intro char member
    exact isPlain_of_isBlank (List.all_eq_true.mp blank char member)
  | @slashes line _ isLine ends =>
    change overflow? limit depth ('/' :: '/' :: (line ++ behind)) = _
    rw [overflow?, overflow?_line isLine ends]
  | @hash line _ isLine ends =>
    change overflow? limit depth ('#' :: (line ++ behind)) = _
    rw [overflow?, overflow?_line isLine ends]

/-- The scan comes through all the layout without a change. -/
theorem overflow?_layout {input rest : List Char} (read : layout.read input = .ok ((), rest))
    (limit depth : Nat) : overflow? limit depth input = overflow? limit depth rest := by
  obtain ⟨pieces, row⟩ := (layout_accepts read).1
  clear read
  induction row with
  | stay => rfl
  | step found _ inductionHypothesis =>
    rw [overflow?_layoutPiece found]
    exact inductionHypothesis

end WidgetAudit.Source
