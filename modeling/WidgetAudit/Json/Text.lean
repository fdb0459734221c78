/-!
# Texts in JSON

A text in JSON stands between double quotes. Control characters are not allowed inside and are
written as escapes; a character beyond the first plane may be escaped as a pair of surrogates,
and a surrogate without its partner is refused.
-/

namespace WidgetAudit.Json

/-! ### Reading -/

/-- The value of a hexadecimal digit. -/
def hexValue? (char : Char) : Option Nat :=
  if char.isDigit then some (char.toNat - '0'.toNat)
  else if 'a' ≤ char ∧ char ≤ 'f' then some (char.toNat - 'a'.toNat + 10)
  else if 'A' ≤ char ∧ char ≤ 'F' then some (char.toNat - 'A'.toNat + 10)
  else none

/-- The number that four hexadecimal digits write. -/
def hexNumber? (digits : List Char) : Option Nat :=
  if digits.length = 4 then
    digits.foldlM (fun value digit => (hexValue? digit).map (16 * value + ·)) 0
  else
    none

/-- The character of an escape by code units, behind its first letter: one unit, or two that
are a pair of surrogates. Also the number of characters that the escape takes. -/
def unitEscape? (text : List Char) : Option (Char × Nat) := do
  let first ← hexNumber? (text.take 4)
  if first < 0xD800 ∨ 0xDFFF < first then
    some (Char.ofNat first, 4)
  else if first < 0xDC00 then
    match text.drop 4 with
    | '\\' :: 'u' :: rest =>
      let second ← hexNumber? (rest.take 4)
      if 0xDC00 ≤ second ∧ second ≤ 0xDFFF then
        some (Char.ofNat (0x10000 + (first - 0xD800) * 0x400 + (second - 0xDC00)), 10)
      else
        none
    | _ => none
  else
    none

/-- The character that a letter behind a backslash stands for. -/
def letterEscape? : Char → Option Char
  | '"' => some '"'
  | '\\' => some '\\'
  | '/' => some '/'
  | 'b' => some '\x08'
  | 'f' => some '\x0c'
  | 'n' => some '\n'
  | 'r' => some '\r'
  | 't' => some '\t'
  | _ => none

/-- What stands behind an opening quote, up to the closing one, and what follows. -/
def body? (text : List Char) : Option (List Char × List Char) :=
  match text with
  | [] => none
  | '"' :: rest => some ([], rest)
  | '\\' :: 'u' :: rest =>
    match unitEscape? rest with
    | some (char, taken) =>
      (body? (rest.drop taken)).map fun found => (char :: found.1, found.2)
    | none => none
  | '\\' :: letter :: rest =>
    match letterEscape? letter with
    | some char => (body? rest).map fun found => (char :: found.1, found.2)
    | none => none
  | char :: rest =>
    if char = '\\' ∨ char.toNat < 0x20 then none
    else (body? rest).map fun found => (char :: found.1, found.2)
termination_by text.length
decreasing_by all_goals (simp; try omega)

/-! ### Writing -/

/-- A hexadecimal digit. -/
def hexDigit (value : Nat) : Char := (Nat.toDigits 16 value).headD '0'

/-- A character inside quotes. -/
def escaped (char : Char) : List Char :=
  match char with
  | '"' => ['\\', '"']
  | '\\' => ['\\', '\\']
  | '\x08' => ['\\', 'b']
  | '\x0c' => ['\\', 'f']
  | '\n' => ['\\', 'n']
  | '\r' => ['\\', 'r']
  | '\t' => ['\\', 't']
  | char =>
    if char.toNat < 0x20 then
      ['\\', 'u', '0', '0', hexDigit (char.toNat / 16), hexDigit (char.toNat % 16)]
    else
      [char]

/-- A text between quotes. -/
def quoted (text : List Char) : List Char := '"' :: text.flatMap escaped ++ ['"']

end WidgetAudit.Json
