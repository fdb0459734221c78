/-!
# Sets of code points as ranges

The properties of characters are given as tables of ranges, written as in the data files of
Unicode: hexadecimal code points, a range as its two ends with a dash, ranges in ascending
order with blanks between them. A table is searched by halving.
-/

namespace WidgetAudit.Text

/-- Ranges of code points in ascending order, each with both of its ends. -/
structure CodeRanges where
  ranges : Array (Nat × Nat)

namespace CodeRanges

/-- The value of a hexadecimal digit in capitals. -/
def hexDigit (char : Char) : Nat :=
  if char.isDigit then char.toNat - '0'.toNat else char.toNat - 'A'.toNat + 10

/-- The number that hexadecimal digits write. -/
def hexNumber (digits : List Char) : Nat :=
  digits.foldl (fun value digit => 16 * value + hexDigit digit) 0

/-- A code point, or two with a dash between them. -/
def rangeOf (word : List Char) : Nat × Nat :=
  match word.span (· != '-') with
  | (first, []) => (hexNumber first, hexNumber first)
  | (first, _ :: last) => (hexNumber first, hexNumber last)

/-- The ranges that the lines of a table list. -/
def ofLines (lines : List String) : CodeRanges :=
  ⟨(lines.flatMap fun line => (line.toList.splitOn ' ').map rangeOf).toArray⟩

/-- The number of ranges. -/
def size (table : CodeRanges) : Nat := table.ranges.size

/-- Whether one of the ranges from `low` up to `high` holds a code point. -/
def containsBetween (ranges : Array (Nat × Nat)) (code low high : Nat) : Bool :=
  if low < high then
    let middle := (low + high) / 2
    match ranges[middle]? with
    | none => false
    | some (first, last) =>
      if code < first then containsBetween ranges code low middle
      else if last < code then containsBetween ranges code (middle + 1) high
      else true
  else
    false
termination_by high - low

/-- Whether a code point lies in one of the ranges. -/
def contains (table : CodeRanges) (code : Nat) : Bool :=
  containsBetween table.ranges code 0 table.ranges.size

end CodeRanges

end WidgetAudit.Text
