/-!
# Parts of a text

Whether a text contains another one, tried at every place from the left.
-/

namespace WidgetAudit.Text

/-- Whether one text is a part of another one. The empty text is part of every text. -/
def isPartOf (part : List Char) : List Char → Bool
  | [] => part.isEmpty
  | char :: rest => part.isPrefixOf (char :: rest) || isPartOf part rest

/-- The search finds exactly the parts. -/
theorem isPartOf_iff {part whole : List Char} : isPartOf part whole = true ↔ part <:+: whole := by
  induction whole with
  | nil => simp [isPartOf]
  | cons char rest inductionHypothesis => simp [isPartOf, inductionHypothesis, List.infix_cons_iff]

end WidgetAudit.Text
