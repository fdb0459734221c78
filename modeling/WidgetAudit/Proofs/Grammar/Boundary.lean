import WidgetAudit.Proofs.Grammar.Tokenwise

/-!
# Layout between two tokens

Layout is put into a text directly behind one of its tokens, and the two texts are read side by
side. Up to the token they are the same text in front of different ends (`Ahead`), behind it the
one text is an end of the other, and once layout has been skipped there both are the same.

`Carries` says of a reader that it keeps to this: it accepts the wider text with the same value, and
declines it where it declines the other one. It is a law of every combinator, with a relation of
the two texts in front of the reader and one behind it. Between two tokens texts are related in the
`Loose` way, and behind layout, where a token is next, in the `Near` way.

One reader does not keep to it. Behind a point the word `is_resolved` is looked for without layout
in front of it, and where it does not follow at once the text is refused for good. So whether the
boundary is `Torn`, with a point on its left and this word on its right, is part of the relations:
once the boundary has been passed it was not, or else the wider text has been refused.
-/

namespace WidgetAudit.Grammar

open Reader

/-! ### Layout to put in -/

/-- Blanks and comments, each comment with the line break that ends it. -/
inductive IsFill : (fill : List Char) → Prop
  | nil : IsFill []
  | blank {char : Char} {others : List Char} (blank : Text.isBlank char = true)
      (fill : IsFill others) : IsFill (char :: others)
  | slashes {line others : List Char} (isLine : IsLine line) (fill : IsFill others) :
      IsFill ('/' :: '/' :: (line ++ '\n' :: others))
  | hash {line others : List Char} (isLine : IsLine line) (fill : IsFill others) :
      IsFill ('#' :: (line ++ '\n' :: others))

/-- Layout that may be put behind a token: it begins with a blank, so that it ends the token. -/
structure IsSpacing (gap : List Char) : Prop where
  begins : ∃ char later, gap = char :: later ∧ Text.isBlank char = true
  fill : IsFill gap

/-- Layout that has been put in front of a text is skipped with the layout of the text. -/
theorem read_layout_fill {fill : List Char} (isFill : IsFill fill) (input : List Char) :
    layout.read (fill ++ input) = layout.read input := by
  have newline : IsGap ['\n'] := rfl
  induction isFill with
  | nil => rfl
  | @blank char others blank _ inductionHypothesis =>
    have gap : IsGap [char] := by simp [IsGap, blank]
    exact (read_layout_gap gap (others ++ input)).trans inductionHypothesis
  | @slashes line others isLine _ inductionHypothesis =>
    have ends : EndsLine ('\n' :: (others ++ input)) := .inr ⟨_, .inl rfl⟩
    have skipped := read_layout_piece (read_layoutPiece (.slashes isLine ends))
    simp only [List.cons_append, List.append_assoc] at skipped ⊢
    exact (skipped.trans (read_layout_gap newline _)).trans inductionHypothesis
  | @hash line others isLine _ inductionHypothesis =>
    have ends : EndsLine ('\n' :: (others ++ input)) := .inr ⟨_, .inl rfl⟩
    have skipped := read_layout_piece (read_layoutPiece (.hash isLine ends))
    simp only [List.cons_append, List.append_assoc] at skipped ⊢
    exact (skipped.trans (read_layout_gap newline _)).trans inductionHypothesis

/-! ### Two texts -/

/-- A token of a text, what stands behind it, and layout to put between the two. -/
structure Boundary where
  first : List Char
  ends : List Char → Prop
  behind : List Char
  gap : List Char
  isToken : IsToken first ends
  ended : ends behind
  isSpacing : IsSpacing gap

namespace Boundary

variable (boundary : Boundary)

/-- The boundary is between a point and the word `is_resolved`. -/
def Torn : Prop :=
  boundary.first = ['.'] ∧ ∃ rest,
    (layout >>= fun _ => keyword "is_resolved").read boundary.behind = .ok ((), rest)

/-- Two texts with the boundary ahead, of which the second one has the layout there. -/
inductive Ahead : (tight wide : List Char) → Prop
  | here : Ahead (boundary.first ++ boundary.behind)
      (boundary.first ++ (boundary.gap ++ boundary.behind))
  | layout {piece tight wide : List Char} (isPiece : IsPiece piece tight)
      (isPieceWide : IsPiece piece wide) (onward : Ahead tight wide) :
      Ahead (piece ++ tight) (piece ++ wide)
  | token {token tight wide : List Char} {ends : List Char → Prop} (isToken : IsToken token ends)
      (ended : ends tight) (endedWide : ends wide) (onward : Ahead tight wide) :
      Ahead (token ++ tight) (token ++ wide)

/-- Two texts that differ by the layout at most: the boundary has been passed, or the layout is
next, which may be said of some boundaries only, or the boundary is ahead. -/
inductive Apart (allowed : Prop) : (tight wide : List Char) → Prop
  | past (whole : ¬ boundary.Torn) (text : List Char) : Apart allowed text text
  | front (allows : allowed) : Apart allowed boundary.behind (boundary.gap ++ boundary.behind)
  | ahead {tight wide : List Char} (ahead : boundary.Ahead tight wide) : Apart allowed tight wide

/-- Two texts between tokens. -/
def Loose : List Char → List Char → Prop := boundary.Apart (¬ boundary.Torn)

/-- Two texts behind a point. -/
def BehindPoint : List Char → List Char → Prop := boundary.Apart (boundary.first = ['.'])

/-- Two texts with a token next, or without any difference. -/
inductive Near : (tight wide : List Char) → Prop
  | past (whole : ¬ boundary.Torn) (text : List Char) : Near text text
  | token {token tight wide : List Char} {ends : List Char → Prop} (isToken : IsToken token ends)
      (ended : ends tight) (endedWide : ends wide)
      (ahead : boundary.Ahead (token ++ tight) (token ++ wide))
      (loose : token ≠ ['.'] → boundary.Loose tight wide)
      (point : token = ['.'] → boundary.BehindPoint tight wide) :
      Near (token ++ tight) (token ++ wide)

/-- The boundary has been passed. -/
def Past (tight wide : List Char) : Prop := ¬ boundary.Torn ∧ tight = wide

variable {boundary}

/-- The token ends in front of the layout as well. -/
theorem endedWide (boundary : Boundary) :
    boundary.ends (boundary.gap ++ boundary.behind) := by
  obtain ⟨char, later, form, blank⟩ := boundary.isSpacing.begins
  rw [form]
  exact boundary.isToken.ends_of_isBlank blank _

/-- Where the boundary is ahead, both texts begin alike. -/
theorem Ahead.head {tight wide : List Char} (ahead : boundary.Ahead tight wide) :
    ∃ char tightRest wideRest, tight = char :: tightRest ∧ wide = char :: wideRest := by
  have begins {front tight wide : List Char} (nonempty : front ≠ []) :
      ∃ char tightRest wideRest, front ++ tight = char :: tightRest ∧
        front ++ wide = char :: wideRest := by
    obtain ⟨char, others, rfl⟩ := List.exists_cons_of_ne_nil nonempty
    exact ⟨char, others ++ tight, others ++ wide, rfl, rfl⟩
  cases ahead with
  | here => exact begins boundary.isToken.ne_nil
  | layout isPiece _ _ =>
    refine begins ?_
    rintro rfl
    cases isPiece with
    | blanks nonempty _ _ => exact nonempty rfl
  | token isToken _ _ _ => exact begins isToken.ne_nil

/-- What the text does not begin with, the wider text does not begin with. -/
theorem Ahead.avoids {tight wide : List Char} (ahead : boundary.Ahead tight wide)
    {test : Char → Bool} (avoids : Avoids test tight) : Avoids test wide := by
  obtain ⟨char, tightRest, wideRest, rfl, rfl⟩ := ahead.head
  exact avoids_cons (avoids char tightRest rfl) wideRest

/-- Where both texts begin with a point, a digit that does not follow it in the one does not
follow it in the other. -/
theorem Ahead.behind_point {later wide : List Char} (ahead : boundary.Ahead ('.' :: later) wide)
    (noDigit : Avoids Char.isDigit later) :
    ∀ wideLater, wide = '.' :: wideLater → Avoids Char.isDigit wideLater := by
  have isPoint {token tight : List Char} {ends : List Char → Prop} (isToken : IsToken token ends)
      (form : token ++ tight = '.' :: later) : token = ['.'] := by
    obtain another | same := isToken.lone_cases (show isSign '.' = true by decide) (by decide)
    · exact absurd (another tight '.' later form) (by simp)
    · exact same
  generalize form : '.' :: later = tight at ahead
  intro wideLater wideForm
  cases ahead with
  | here =>
    rw [isPoint boundary.isToken form.symm] at wideForm
    cases wideForm
    obtain ⟨char, rest, begins, blank⟩ := boundary.isSpacing.begins
    rw [begins]
    exact avoids_cons (isDigit_of_isBlank blank) _
  | layout isPiece _ _ =>
    cases isPiece with
    | blanks nonempty blank _ =>
      obtain ⟨char, others, rfl⟩ := List.exists_cons_of_ne_nil nonempty
      cases form
      exact absurd (List.all_eq_true.mp blank '.' List.mem_cons_self) (by decide)
    | slashes => cases form
    | hash => cases form
  | token isToken _ _ onward =>
    obtain rfl := isPoint isToken form.symm
    cases form
    cases wideForm
    exact onward.avoids noDigit

/-- A token that ends in front of the one text ends in front of the other. -/
theorem Ahead.ends {token tight wide : List Char} {ends : List Char → Prop}
    (ahead : boundary.Ahead tight wide) (isToken : IsToken token ends) (ended : ends tight) :
    ends wide := by
  cases isToken with
  | whole =>
    refine ⟨ahead.avoids ended.1, ?_⟩
    rintro later rfl
    obtain ⟨char, tightRest, wideRest, rfl, form⟩ := ahead.head
    cases form
    exact ahead.behind_point (ended.2 tightRest rfl) _ rfl
  | quoted => trivial
  | pair => trivial
  | name => exact ahead.avoids ended
  | fraction => exact ahead.avoids ended
  | single => exact ahead.avoids ended

/-- A line that ends in front of the one text ends in front of the other. -/
theorem Ahead.endsLine {tight wide : List Char} (ahead : boundary.Ahead tight wide)
    (ends : EndsLine tight) : EndsLine wide := by
  have noToken {token later behind : List Char} {ends : List Char → Prop}
      (isToken : IsToken token ends) (ended : ends behind)
      (form : token ++ behind = '\r' :: later) : False := by
    have solid := isToken.isSolid ended
    exact absurd (solid '\r' later form).1 (by decide)
  rcases ends with rfl | ⟨later, rfl | rfl⟩
  · obtain ⟨char, tightRest, wideRest, impossible, _⟩ := ahead.head
    cases impossible
  · obtain ⟨char, tightRest, wideRest, form, rfl⟩ := ahead.head
    cases form
    exact .inr ⟨wideRest, .inl rfl⟩
  · generalize form : '\r' :: '\n' :: later = tight at ahead
    cases ahead with
    | here => exact (noToken boundary.isToken boundary.ended form.symm).elim
    | token isToken ended _ _ => exact (noToken isToken ended form.symm).elim
    | @layout piece tight wide isPiece _ _ =>
      cases isPiece with
      | blanks nonempty _ ends =>
        -- the blanks do not end between the carriage return and the newline
        obtain ⟨char, others, rfl⟩ := List.exists_cons_of_ne_nil nonempty
        cases others with
        | nil =>
          cases form
          exact absurd (ends '\n' later rfl) (by decide)
        | cons second others =>
          cases form
          exact .inr ⟨others ++ wide, .inr rfl⟩
      | slashes => cases form
      | hash => cases form

/-- A piece of layout in front of the one text is one in front of the other. -/
theorem Ahead.isPiece {piece tight wide : List Char} (ahead : boundary.Ahead tight wide)
    (isPiece : IsPiece piece tight) : IsPiece piece wide := by
  cases isPiece with
  | blanks nonempty blank ends => exact .blanks nonempty blank (ahead.avoids ends)
  | slashes isLine ends => exact .slashes isLine (ahead.endsLine ends)
  | hash isLine ends => exact .hash isLine (ahead.endsLine ends)

/-- A text in which tokens and layout lead up to the boundary has it ahead. -/
theorem ahead_of_lexed {text : List Char} {tokens : List (List Char)}
    (lexed : Lexed text tokens (boundary.first ++ boundary.behind)) :
    ∃ front, text = front ++ (boundary.first ++ boundary.behind) ∧
      boundary.Ahead text (front ++ (boundary.first ++ (boundary.gap ++ boundary.behind))) := by
  generalize form : boundary.first ++ boundary.behind = rest at lexed
  induction lexed with
  | stay =>
    subst form
    exact ⟨[], rfl, .here⟩
  | @layout piece _ _ _ isPiece _ inductionHypothesis =>
    obtain ⟨front, rfl, ahead⟩ := inductionHypothesis form
    refine ⟨piece ++ front, by simp, ?_⟩
    rw [List.append_assoc]
    exact .layout isPiece (ahead.isPiece isPiece) ahead
  | @token token _ _ _ _ isToken ended _ inductionHypothesis =>
    obtain ⟨front, rfl, ahead⟩ := inductionHypothesis form
    refine ⟨token ++ front, by simp, ?_⟩
    rw [List.append_assoc]
    exact .token isToken ended (ahead.ends isToken ended) ahead

/-! ### Skipping layout -/

/-- What skips layout in both texts comes to a token in both, or to the same text. -/
theorem Ahead.layout_near {tight wide : List Char} (ahead : boundary.Ahead tight wide) :
    ∃ tightRest wideRest, Grammar.layout.read tight = .ok ((), tightRest) ∧
      Grammar.layout.read wide = .ok ((), wideRest) ∧ boundary.Near tightRest wideRest := by
  induction ahead with
  | here =>
    refine ⟨_, _, read_layout_solid (boundary.isToken.isSolid boundary.ended),
      read_layout_solid (boundary.isToken.isSolid boundary.endedWide),
      .token boundary.isToken boundary.ended boundary.endedWide .here ?_ .front⟩
    exact fun noPoint => .front fun torn => noPoint torn.1
  | layout isPiece isPieceWide _ inductionHypothesis =>
    obtain ⟨tightRest, wideRest, tightRead, wideRead, near⟩ := inductionHypothesis
    exact ⟨tightRest, wideRest, (read_layout_piece (read_layoutPiece isPiece)).trans tightRead,
      (read_layout_piece (read_layoutPiece isPieceWide)).trans wideRead, near⟩
  | token isToken ended endedWide onward _ =>
    exact ⟨_, _, read_layout_solid (isToken.isSolid ended),
      read_layout_solid (isToken.isSolid endedWide),
      .token isToken ended endedWide (.token isToken ended endedWide onward)
        (fun _ => .ahead onward) fun _ => .ahead onward⟩

/-- In front of a token texts are between tokens. -/
theorem Near.loose {tight wide : List Char} (near : boundary.Near tight wide) :
    boundary.Loose tight wide := by
  cases near with
  | past whole => exact .past whole _
  | token _ _ _ ahead _ _ => exact .ahead ahead

/-- Behind their layout two texts have the same token next, or nothing is left of the difference. -/
theorem Loose.layout_near {tight wide : List Char} (loose : boundary.Loose tight wide) :
    ∃ tightRest wideRest, Grammar.layout.read tight = .ok ((), tightRest) ∧
      Grammar.layout.read wide = .ok ((), wideRest) ∧ boundary.Near tightRest wideRest := by
  cases loose with
  | past whole =>
    obtain ⟨rest, read⟩ := layout_total tight
    exact ⟨rest, rest, read, read, .past whole rest⟩
  | front whole =>
    obtain ⟨rest, read⟩ := layout_total boundary.behind
    exact ⟨rest, rest, read, (read_layout_fill boundary.isSpacing.fill _).trans read,
      .past whole rest⟩
  | ahead ahead => exact ahead.layout_near

/-- Where a token is next in the one text, it is next in the other one. -/
theorem Ahead.near {tight wide : List Char} (ahead : boundary.Ahead tight wide) {char : Char}
    {later : List Char} (form : tight = char :: later)
    (solid : ∀ others, IsSolid (char :: others)) : boundary.Near tight wide := by
  obtain ⟨tightRest, wideRest, tightRead, wideRead, near⟩ := ahead.layout_near
  obtain ⟨first, tightLater, wideLater, rfl, rfl⟩ := ahead.head
  cases form
  cases (read_layout_solid (solid _)).symm.trans tightRead
  cases (read_layout_solid (solid _)).symm.trans wideRead
  exact near

end Boundary

end WidgetAudit.Grammar
