import WidgetAudit.Source.Nesting

/-!
# Where the scan for parentheses stops

The scan stops in front of an opening parenthesis, and what it says of a text is not changed
by what is added behind: if it passes over a text, it can only stop in what follows it. A
quoted text or a comment may go on in what follows, and a slash at the end may become a
comment there, but whatever the scan skips then begins behind the text.
-/

namespace WidgetAudit.Source

/-- The scan stops at opening parentheses only. -/
theorem overflow?_opening {limit depth : Nat} {text rest : List Char}
    (stops : overflow? limit depth text = some rest) : rest.head? = some '(' := by
  fun_induction overflow? limit depth text with
  | case1 => cases stops
  | case5 =>
    cases stops
    rfl
  | _ =>
    rename_i inductionHypothesis
    exact inductionHypothesis stops

/-- What is left behind a quoted text is an end of it. -/
theorem behindQuote_isSuffix (text : List Char) : behindQuote text <:+ text := by
  fun_induction behindQuote text with
  | case1 => exact List.suffix_rfl
  | case2 later => exact List.suffix_cons ..
  | case3 => exact List.nil_suffix
  | case4 _ later inductionHypothesis =>
    exact (inductionHypothesis.trans (List.suffix_cons ..)).trans (List.suffix_cons ..)
  | case5 _ later _ _ _ inductionHypothesis =>
    exact inductionHypothesis.trans (List.suffix_cons ..)

/-- What is left behind a comment is an end of it. -/
theorem behindLine_isSuffix (text : List Char) : behindLine text <:+ text :=
  (List.drop_suffix ..).trans (List.dropWhile_suffix _)

/-- The scan stops inside its text. -/
theorem overflow?_isSuffix {limit depth : Nat} {text rest : List Char}
    (stops : overflow? limit depth text = some rest) : rest <:+ text := by
  fun_induction overflow? limit depth text with
  | case1 => cases stops
  | case2 _ later inductionHypothesis =>
    exact ((inductionHypothesis stops).trans (behindQuote_isSuffix _)).trans (List.suffix_cons ..)
  | case3 _ later inductionHypothesis =>
    exact ((inductionHypothesis stops).trans (behindLine_isSuffix _)).trans (List.suffix_cons ..)
  | case4 _ later inductionHypothesis =>
    exact ((inductionHypothesis stops).trans (behindLine_isSuffix _)).trans
      ((List.suffix_cons ..).trans (List.suffix_cons ..))
  | case5 =>
    cases stops
    exact List.suffix_rfl
  | _ =>
    rename_i inductionHypothesis
    exact (inductionHypothesis stops).trans (List.suffix_cons ..)

/-- A quoted text ends in front of what is added, or it goes on there. -/
theorem behindQuote_append (text following : List Char) :
    behindQuote (text ++ following) = behindQuote text ++ following ∨
      behindQuote (text ++ following) <:+ following := by
  fun_induction behindQuote text with
  | case1 => exact .inr (behindQuote_isSuffix following)
  | case2 later => exact .inl (by rw [List.cons_append, behindQuote])
  | case3 =>
    cases following with
    | nil => exact .inl rfl
    | cons first later =>
      refine .inr ?_
      change behindQuote ('\\' :: first :: later) <:+ _
      rw [behindQuote]
      exact (behindQuote_isSuffix later).trans (List.suffix_cons ..)
  | case4 _ later inductionHypothesis =>
    rw [List.cons_append, List.cons_append, behindQuote]
    exact inductionHypothesis
  | case5 first later noQuote noLast noEscape inductionHypothesis =>
    have noBackslash : first ≠ '\\' := by
      rintro rfl
      cases later with
      | nil => exact noLast rfl rfl
      | cons second others => exact noEscape second others rfl rfl
    rw [List.cons_append, behindQuote]
    · exact inductionHypothesis
    · exact noQuote
    · exact fun same => absurd same noBackslash
    · exact fun _ _ same => absurd same noBackslash

/-- A comment ends in front of what is added, or it goes on there. -/
theorem behindLine_append (text following : List Char) :
    behindLine (text ++ following) = behindLine text ++ following ∨
      behindLine (text ++ following) <:+ following := by
  unfold behindLine
  by_cases empty : text.dropWhile (· != '\n') = []
  · rw [List.dropWhile_append, empty, List.isEmpty_nil, if_pos rfl]
    exact .inr ((List.drop_suffix ..).trans (List.dropWhile_suffix _))
  · obtain ⟨newline, later, left⟩ := List.exists_cons_of_ne_nil empty
    rw [List.dropWhile_append, left]
    exact .inl rfl

/-- What the scan passes over it passes over in front of every text: it can only stop behind. -/
theorem overflow?_append_isSuffix {limit depth : Nat} {text following rest : List Char}
    (passes : overflow? limit depth text = none)
    (stops : overflow? limit depth (text ++ following) = some rest) : rest <:+ following := by
  fun_induction overflow? limit depth text with
  | case1 => exact overflow?_isSuffix stops
  | case2 depth later inductionHypothesis =>
    rw [List.cons_append, overflow?] at stops
    rcases behindQuote_append later following with ends | goesOn
    · exact inductionHypothesis passes (ends ▸ stops)
    · exact (overflow?_isSuffix stops).trans goesOn
  | case3 depth later inductionHypothesis =>
    rw [List.cons_append, overflow?] at stops
    rcases behindLine_append later following with ends | goesOn
    · exact inductionHypothesis passes (ends ▸ stops)
    · exact (overflow?_isSuffix stops).trans goesOn
  | case4 depth later inductionHypothesis =>
    rw [List.cons_append, List.cons_append, overflow?] at stops
    rcases behindLine_append later following with ends | goesOn
    · exact inductionHypothesis passes (ends ▸ stops)
    · exact (overflow?_isSuffix stops).trans goesOn
  | case5 => cases passes
  | case6 depth later room inductionHypothesis =>
    rw [List.cons_append, overflow?, if_neg room] at stops
    exact inductionHypothesis passes stops
  | case7 depth later inductionHypothesis =>
    rw [List.cons_append, overflow?] at stops
    exact inductionHypothesis passes stops
  | case8 depth first later noQuote noHash noComment noOpening noClosing inductionHypothesis =>
    rw [List.cons_append] at stops
    by_cases comment : ∃ tail, first = '/' ∧ later ++ following = '/' :: tail
    · -- a slash that ends the text begins a comment with the slash behind it
      obtain ⟨tail, rfl, form⟩ := comment
      rw [form, overflow?] at stops
      cases later with
      | nil =>
        subst form
        exact ((overflow?_isSuffix stops).trans (behindLine_isSuffix tail)).trans
          (List.suffix_cons ..)
      | cons second others =>
        cases form
        exact absurd rfl (noComment others rfl)
    · rw [overflow?] at stops
      · exact inductionHypothesis passes stops
      · exact noQuote
      · exact noHash
      · exact fun tail slash form => comment ⟨tail, slash, form⟩
      · exact noOpening
      · exact noClosing

end WidgetAudit.Source
