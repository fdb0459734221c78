import WidgetAudit.Json.Number
import WidgetAudit.Json.Text
import WidgetAudit.KindTable

/-!
# Values and kinds as JSON

Values and kind tables are exchanged as JSON. A value is one scalar: lists and objects are no
values. A kind table is an object of lists of texts; of equal keys the last one counts.
Blanks may stand between any two tokens and around the whole.
-/

namespace WidgetAudit

namespace Json

/-- What follows the blanks of JSON. -/
def behindBlanks (text : List Char) : List Char :=
  text.dropWhile fun char => char == ' ' || char == '\t' || char == '\n' || char == '\r'

/-- What follows a character behind blanks. -/
def behindSign? (sign : Char) (text : List Char) : Option (List Char) :=
  match behindBlanks text with
  | [] => none
  | char :: rest => if char = sign then some rest else none

/-- A text in quotes behind blanks, and what follows it. -/
def text? (text : List Char) : Option (List Char × List Char) := (behindSign? '"' text).bind body?

/-- A scalar behind blanks, and what follows it. -/
def scalar? (text : List Char) : Option (Value × List Char) :=
  let text := behindBlanks text
  let word (word : String) (value : Value) : Option (Value × List Char) :=
    (word.toList.isPrefixOf? text).map fun rest => (value, rest)
  match text with
  | '"' :: rest => (body? rest).map fun found => (.string (String.ofList found.1), found.2)
  | 'n' :: _ => word "null" .null
  | 't' :: _ => word "true" (.bool true)
  | 'f' :: _ => word "false" (.bool false)
  | _ => number? text

/-- Only blanks may follow. -/
def alone? {α : Type} (read : Option (α × List Char)) : Option α :=
  match read with
  | some (value, rest) => if (behindBlanks rest).isEmpty then some value else none
  | none => none

/-- Items with commas between them, up to a closing bracket; at least one has to stand here.
As many items can be read as a limit allows, which the length of the text is. -/
def items? {α : Type} (item : List Char → Option (α × List Char)) (closing : Char) :
    Nat → List Char → Option (List α × List Char)
  | 0, _ => none
  | limit + 1, text =>
    match item text with
    | none => none
    | some (value, rest) =>
      match behindSign? closing rest with
      | some rest => some ([value], rest)
      | none =>
        match behindSign? ',' rest with
        | some rest =>
          (items? item closing limit rest).map fun found => (value :: found.1, found.2)
        | none => none

/-- Items between brackets, with commas between them. -/
def bracketed? {α : Type} (opening closing : Char) (item : List Char → Option (α × List Char))
    (text : List Char) : Option (List α × List Char) :=
  match behindSign? opening text with
  | none => none
  | some rest =>
    match behindSign? closing rest with
    | some rest => some ([], rest)
    | none => items? item closing rest.length rest

/-- A list of texts. -/
def texts? (text : List Char) : Option (List String × List Char) :=
  (bracketed? '[' ']' text? text).map fun found => (found.1.map String.ofList, found.2)

/-- A key, a colon and a list of texts. -/
def kind? (text : List Char) : Option ((String × List String) × List Char) := do
  let (key, rest) ← text? text
  let rest ← behindSign? ':' rest
  let (roles, rest) ← texts? rest
  return ((String.ofList key, roles), rest)

/-- Texts with commas between them. -/
def joined (parts : List (List Char)) : List Char := [','].intercalate parts

end Json

/-- The value that a JSON text writes. -/
def Value.ofJson? (text : String) : Option Value := Json.alone? (Json.scalar? text.toList)

/-- A value as a JSON text. -/
def Value.toJson : Value → String
  | .string text => String.ofList (Json.quoted text.toList)
  | .float number => String.ofList (Json.writtenFloat number)
  | value => value.text

/-- The kind table that a JSON text writes. -/
def KindTable.ofJson? (text : String) : Option KindTable :=
  (Json.alone? (Json.bracketed? '{' '}' Json.kind? text.toList)).map .ofList

/-- A kind table as a JSON text, with the kinds in ascending order. -/
def KindTable.toJson (table : KindTable) : String :=
  let kind (entry : String × List String) : List Char :=
    Json.quoted entry.1.toList ++ ':' :: '[' ::
      Json.joined (entry.2.map fun role => Json.quoted role.toList) ++ [']']
  String.ofList ('{' :: Json.joined (table.entries.map kind) ++ ['}'])

end WidgetAudit
