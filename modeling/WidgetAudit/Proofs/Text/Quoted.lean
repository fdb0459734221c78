import WidgetAudit.Text.Quoted

/-!
# The inside of a quoted text

`Encloses` says without a loop what stands between the quotes of a closed text, and which content
that is. Behind its opening quote a text is closed by the quote behind such an inside, and since
`body?` finds it, there is at most one. A law about closed texts is a law about insides.
-/

namespace WidgetAudit.Quoted

/-- What may stand between the quotes of a closed text, with the content that it stands for. A
backslash takes the next character with it; apart from that every character but the quote stands
for itself. -/
inductive Encloses : (inside content : List Char) → Prop
  | nothing : Encloses [] []
  | plain {char : Char} {inside content : List Char} (noQuote : char ≠ '"')
      (noBackslash : char ≠ '\\') (later : Encloses inside content) :
      Encloses (char :: inside) (char :: content)
  | pair (char : Char) {inside content : List Char} (later : Encloses inside content) :
      Encloses ('\\' :: char :: inside) (unescaped char ++ content)

/-- The quote behind an inside closes the text. -/
theorem Encloses.body?_eq {inside content : List Char} (encloses : Encloses inside content)
    (behind : List Char) : body? (inside ++ '"' :: behind) = some (content, behind) := by
  induction encloses with
  | nothing => rfl
  | plain noQuote noBackslash _ inductionHypothesis =>
    rw [List.cons_append, body?, inductionHypothesis]
    · rfl
    · exact noQuote
    · exact fun same => absurd same noBackslash
    · exact fun _ _ same => absurd same noBackslash
  | pair char _ inductionHypothesis =>
    rw [List.cons_append, List.cons_append, body?, inductionHypothesis]
    rfl

/-- What is read of a closed text is an inside, up to the quote behind it. -/
theorem exists_encloses_of_body? {text content behind : List Char}
    (found : body? text = some (content, behind)) :
    ∃ inside, Encloses inside content ∧ text = inside ++ '"' :: behind := by
  fun_induction body? text generalizing content behind with
  | case1 => cases found
  | case2 later =>
    cases found
    exact ⟨[], .nothing, rfl⟩
  | case3 => cases found
  | case4 char later inductionHypothesis =>
    obtain ⟨inner, innerFound, same⟩ := Option.map_eq_some_iff.mp found
    cases same
    obtain ⟨inside, encloses, rfl⟩ := inductionHypothesis innerFound
    exact ⟨'\\' :: char :: inside, .pair char encloses, rfl⟩
  | case5 char later noQuote noLast noEscape inductionHypothesis =>
    obtain ⟨inner, innerFound, same⟩ := Option.map_eq_some_iff.mp found
    cases same
    have noBackslash : char ≠ '\\' := by
      rintro rfl
      cases later with
      | nil => exact noLast rfl rfl
      | cons second others => exact noEscape second others rfl rfl
    obtain ⟨inside, encloses, rfl⟩ := inductionHypothesis innerFound
    exact ⟨char :: inside, .plain noQuote noBackslash encloses, rfl⟩

end WidgetAudit.Quoted
