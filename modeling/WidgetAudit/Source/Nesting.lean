/-!
# The depth of parentheses

Before a text is read its parentheses are counted, so that a text that nests too deep is
refused by a scan that needs no stack. The scan knows just enough of the language to skip
what stands in quotes and in comments. A closing parenthesis without an opening one is
left to the grammar.
-/

namespace WidgetAudit.Source

/-- What follows a quoted text whose opening quote has been read; a backslash takes the
next character with it. -/
def behindQuote : List Char → List Char
  | [] => []
  | '"' :: rest => rest
  | ['\\'] => []
  | '\\' :: _ :: rest => behindQuote rest
  | _ :: rest => behindQuote rest

/-- What follows the newline that ends a comment. -/
def behindLine (text : List Char) : List Char := (text.dropWhile (· != '\n')).drop 1

/-- Behind a quoted text no more is left than there was. -/
theorem behindQuote_length_le (text : List Char) : (behindQuote text).length ≤ text.length := by
  fun_induction behindQuote text <;> simp_all <;> omega

/-- Behind a comment no more is left than there was. -/
theorem behindLine_length_le (text : List Char) : (behindLine text).length ≤ text.length := by
  have := (List.dropWhile_suffix (l := text) (· != '\n')).length_le
  simp only [behindLine, List.length_drop]
  omega

/-- The text from the first parenthesis on that opens more than `limit` levels, if there
is one, when `depth` parentheses are open. -/
def overflow? (limit : Nat) (depth : Nat) : List Char → Option (List Char)
  | [] => none
  | '"' :: rest => overflow? limit depth (behindQuote rest)
  | '#' :: rest => overflow? limit depth (behindLine rest)
  | '/' :: '/' :: rest => overflow? limit depth (behindLine rest)
  | '(' :: rest =>
    if limit ≤ depth then some ('(' :: rest) else overflow? limit (depth + 1) rest
  | ')' :: rest => overflow? limit (depth - 1) rest
  | _ :: rest => overflow? limit depth rest
termination_by text => text.length
decreasing_by
  all_goals
    have := behindQuote_length_le
    have := behindLine_length_le
    grind

end WidgetAudit.Source
