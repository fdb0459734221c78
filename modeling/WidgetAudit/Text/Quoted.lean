/-!
# Quoted text

A text stands in a rule between double quotes. Inside, the quote, the backslash,
the newline, the tab and the carriage return are written as a backslash and a
letter; every other character stands for itself. `written` is that form. `body?` reads
on from an opening quote to the closing one: of what was written it gives back the text,
and leaves whatever follows.

A reader meets more than what `written` produces: a backslash before any other
character is kept together with it, so that escapes of patterns such as `\d` need
no doubling.
-/

namespace WidgetAudit.Quoted

/-- One character as it stands inside quotes. -/
def escaped : Char → List Char
  | '"' => ['\\', '"']
  | '\\' => ['\\', '\\']
  | '\n' => ['\\', 'n']
  | '\t' => ['\\', 't']
  | '\r' => ['\\', 'r']
  | char => [char]

/-- A text between quotes. -/
def written (text : List Char) : List Char := '"' :: text.flatMap escaped ++ ['"']

/-- What a backslash and the character behind it stand for. -/
def unescaped : Char → List Char
  | '"' => ['"']
  | '\\' => ['\\']
  | 'n' => ['\n']
  | 't' => ['\t']
  | 'r' => ['\r']
  | char => ['\\', char]

/-- The text up to the closing quote and what follows that quote; nothing if the
quote is missing. The opening quote has been read already. -/
def body? : List Char → Option (List Char × List Char)
  | [] => none
  | '"' :: rest => some ([], rest)
  | ['\\'] => none
  | '\\' :: char :: rest => (body? rest).map fun found => (unescaped char ++ found.1, found.2)
  | char :: rest => (body? rest).map fun found => (char :: found.1, found.2)

/-- What follows a quoted text is an end of what was read. -/
theorem body?_isSuffix {text content rest : List Char}
    (found : body? text = some (content, rest)) : rest <:+ text := by
  fun_induction body? text generalizing content rest with
  | case1 => cases found
  | case2 later =>
    cases found
    exact List.suffix_cons ..
  | case3 => cases found
  | case4 char later ih =>
    obtain ⟨inner, innerFound, same⟩ := Option.map_eq_some_iff.mp found
    cases same
    exact ((ih innerFound).trans (List.suffix_cons ..)).trans (List.suffix_cons ..)
  | case5 char later _ _ _ ih =>
    obtain ⟨inner, innerFound, same⟩ := Option.map_eq_some_iff.mp found
    cases same
    exact (ih innerFound).trans (List.suffix_cons ..)

/-- One written character is read back, whatever follows it. -/
theorem body?_escaped (char : Char) (following : List Char) :
    body? (escaped char ++ following) =
      (body? following).map fun found => (char :: found.1, found.2) := by
  unfold escaped
  split <;> simp_all [body?, unescaped]

/-- Reading undoes writing and leaves what follows, whatever that is. -/
theorem body?_written (text following : List Char) :
    body? (text.flatMap escaped ++ '"' :: following) = some (text, following) := by
  induction text with
  | nil => rfl
  | cons char rest ih => simp [body?_escaped, ih]

end WidgetAudit.Quoted
