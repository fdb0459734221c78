import WidgetAudit.Grammar.Reader
import WidgetAudit.Number.Numeral
import WidgetAudit.Text.Blank
import WidgetAudit.Text.Quoted
import WidgetAudit.Value

/-!
# Layout, names and literals

The smallest parts of the text of a rule. Layout is blanks and comments; a comment
begins with `//` or `#` and runs to the end of its line. Names are of ASCII letters,
digits and underscores and do not begin with a digit; a keyword is a whole name.
Numbers have no sign, and have a point only between digits.
-/

namespace WidgetAudit.Grammar

open Reader

/-! ### Layout -/

/-- The end of a line, which is not read: a newline, a carriage return and a newline, or the
end of the text. A carriage return that stands alone ends no line. -/
def lineEnd : Reader Unit where
  read input :=
    match input with
    | '\r' :: '\n' :: _ => .ok ((), input)
    | '\r' :: _ => .error (.at input)
    | _ => .ok ((), input)
  left_isSuffix input := by split <;> exact List.suffix_rfl

/-- The rest of a line. A comment that meets a carriage return standing alone is none. -/
def lineRest : Reader Unit := do
  let _ ← run fun char => char != '\n' && char != '\r'
  lineEnd

/-- One run of blanks or one comment. -/
def layoutPiece : Reader Unit :=
  (do let _ ← run1 Text.isBlank) <|>
  (do Reader.text "//"; lineRest) <|>
  (do let _ ← char '#'; lineRest)

/-- A piece of layout reads at least one character. -/
theorem consumes_layoutPiece : layoutPiece.Consumes :=
  ((consumes_run1 _).bind _).orElse
    (((consumes_text (by decide)).bind _).orElse ((consumes_char _).bind _))

/-- All the layout that stands here. -/
def layout : Reader Unit := do
  let _ ← many layoutPiece consumes_layoutPiece

/-- A character behind layout. -/
def sign (wanted : Char) : Reader Unit := do
  layout
  let _ ← char wanted

/-! ### Names -/

/-- Whether a name may begin with a character. -/
def isNameStart (char : Char) : Bool := char.isAlpha || char == '_'

/-- Whether a name may go on with a character. -/
def isNamePart (char : Char) : Bool := char.isAlphanum || char == '_'

/-- A name. -/
def identifier : Reader String := do
  let first ← charWhere isNameStart
  let others ← run isNamePart
  return String.ofList (first :: others)

/-- A given word that is no part of a longer name. -/
def keyword (word : String) : Reader Unit :=
  remarking (.wantedText word) do
    let _ ← identifier.filtered (· == word)

/-- An identifier reads at least its first character. -/
theorem consumes_identifier : identifier.Consumes := (consumes_charWhere _).bind _

/-- A keyword reads at least the first character of the word. -/
theorem consumes_keyword (word : String) : (keyword word).Consumes :=
  ((consumes_identifier.filtered _).bind _).remarking _

/-! ### Literals -/

/-- The part of a quoted text behind the opening quote. A text that is not closed is
refused at its end. -/
def quotedBody : Reader String where
  read input :=
    match Quoted.body? input with
    | some (content, rest) => .ok (String.ofList content, rest)
    | none => .error (.at [])
  left_isSuffix input := by
    split
    · rename_i found
      exact Quoted.body?_isSuffix found
    · exact List.nil_suffix

/-- A quoted text. -/
def quoted : Reader String := do
  let _ ← char '"'
  remarking (.reading "string literal") (commit quotedBody)

/-- A quoted text reads at least the quote in front of it. -/
theorem consumes_quoted : quoted.Consumes := (consumes_char _).bind _

/-- A point and digits. -/
def fraction : Reader (List Char) := do
  let _ ← char '.'
  run1 Char.isDigit

/-- The value of the digits before and behind the point. Without a point it is a whole
number of 64 bits if it fits; otherwise it is a floating-point number, which has to be
finite. -/
def numberValue (whole : List Char) (places : Option (List Char)) : Option Value :=
  let float (number : Binary64) : Option Value :=
    if number.isFinite then some (.float number) else none
  match places with
  | some places =>
    float (Numeral.scaled false (Numeral.natural (whole ++ places)) (-places.length))
  | none =>
    match int64? (Numeral.natural whole) with
    | some number => some (.int number)
    | none => float (Numeral.scaled false (Numeral.natural whole) 0)

/-- A number. -/
def number : Reader Value :=
  remarking (.reading "number") <|
    (do
      let whole ← run1 Char.isDigit
      let places ← optional fraction
      return (whole, places)).checked
    fun digits =>
      match numberValue digits.1 digits.2 with
      | some value => .ok value
      | none => .error none

end WidgetAudit.Grammar
