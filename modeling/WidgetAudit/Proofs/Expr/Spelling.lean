import WidgetAudit.Proofs.Expr.Rendering

/-!
# What the tokens of an expression say

Two texts may say the same in different tokens: a number may have zeros at its ends, and a quoted
text may escape more characters or fewer. A lexeme is what a token says. For a number and for a
quoted text this is the value, and for every other token its spelling.

A rendering says its leaves, its operators and its parentheses, from left to right. An expression
says the same apart from the parentheses that only group. So which expression a text means is
settled by what it says and by where its parentheses stand.
-/

namespace WidgetAudit

/-- What a token says. -/
inductive Lexeme
  | plain (spelling : List Char)
  | literal (value : Value)
deriving DecidableEq

namespace Lexeme

/-- A word. -/
def word (text : String) : Lexeme := .plain text.toList

/-- A sign of one character. -/
def sign (char : Char) : Lexeme := .plain [char]

/-- A quoted text, by its content. -/
def text (content : String) : Lexeme := .literal (.string content)

/-- Whether a lexeme is a parenthesis. -/
def isParenthesis (lexeme : Lexeme) : Bool := lexeme == sign '(' || lexeme == sign ')'

/-- What a token says: a quoted text says its content, and digits say a number. -/
def ofToken : List Char → Lexeme
  | [] => .plain []
  | first :: later =>
    if first = '"' then
      match Quoted.body? later with
      | some (content, _) => text (String.ofList content)
      | none => .plain (first :: later)
    else if first.isDigit then
      let whole := (first :: later).takeWhile Char.isDigit
      let places := ((first :: later).dropWhile Char.isDigit).tail?
      match Grammar.numberValue whole places with
      | some value => .literal value
      | none => .plain (first :: later)
    else .plain (first :: later)

/-- A token that is spelled out says its spelling, and nothing else does. -/
theorem eq_of_ofToken {token spelling : List Char} (same : ofToken token = .plain spelling) :
    token = spelling := by
  unfold ofToken at same
  split at same
  · exact plain.inj same
  · split at same
    · split at same
      · cases same
      · exact plain.inj same
    · split at same
      · dsimp only at same
        split at same
        · cases same
        · exact plain.inj same
      · exact plain.inj same

/-- A token that begins neither a quoted text nor a number says its spelling. -/
theorem ofToken_plain {first : Char} (noQuote : first ≠ '"') (noDigit : first.isDigit = false)
    (later : List Char) : ofToken (first :: later) = .plain (first :: later) := by
  simp [ofToken, noQuote, noDigit]

/-- A quoted text says its content. -/
theorem ofToken_quoted {body content rest : List Char}
    (closed : Quoted.body? body = some (content, rest)) :
    ofToken ('"' :: body) = text (String.ofList content) := by
  simp [ofToken, closed]

/-- Digits, and what stands behind a point, say the number that they have for a value. -/
theorem ofToken_number {whole rest : List Char} (nonempty : whole ≠ [])
    (areDigits : ∀ char ∈ whole, char.isDigit = true)
    (ends : Grammar.Reader.Avoids Char.isDigit rest) {value : Value}
    (meaning : Grammar.numberValue whole rest.tail? = some value) :
    ofToken (whole ++ rest) = .literal value := by
  have stops : rest.takeWhile Char.isDigit = [] ∧ rest.dropWhile Char.isDigit = rest := by
    cases rest with
    | nil => exact ⟨rfl, rfl⟩
    | cons char later => simp [ends char later rfl]
  have taken : (whole ++ rest).takeWhile Char.isDigit = whole := by
    rw [List.takeWhile_append_of_pos areDigits, stops.1, List.append_nil]
  have dropped : (whole ++ rest).dropWhile Char.isDigit = rest := by
    rw [List.dropWhile_append_of_pos areDigits, stops.2]
  obtain ⟨first, later, rfl⟩ := List.exists_cons_of_ne_nil nonempty
  have digit : first.isDigit = true := areDigits first List.mem_cons_self
  have noQuote : first ≠ '"' := by
    rintro rfl
    exact absurd digit (by decide)
  rw [List.cons_append] at taken dropped ⊢
  simp only [ofToken, noQuote, if_false, digit, if_true, taken, dropped, meaning]

end Lexeme

/-! ### What parentheses leave -/

/-- What is left when the parentheses are taken away. -/
def Lexeme.withoutParentheses (lexemes : List Lexeme) : List Lexeme :=
  lexemes.filter fun lexeme => !lexeme.isParenthesis

namespace Lexeme

/-- Of nothing nothing is left. -/
@[simp] theorem withoutParentheses_nil : withoutParentheses [] = [] := rfl

/-- An opening parenthesis is left out. -/
@[simp] theorem withoutParentheses_opening (later : List Lexeme) :
    withoutParentheses (.sign '(' :: later) = withoutParentheses later := rfl

/-- A closing parenthesis is left out. -/
@[simp] theorem withoutParentheses_closing (later : List Lexeme) :
    withoutParentheses (.sign ')' :: later) = withoutParentheses later := rfl

/-- Of two rows what is left of each is left. -/
@[simp] theorem withoutParentheses_append (first second : List Lexeme) :
    withoutParentheses (first ++ second) =
      withoutParentheses first ++ withoutParentheses second :=
  List.filter_append ..

/-- Another lexeme stays where it is. -/
theorem withoutParentheses_congr {first second : List Lexeme}
    (same : withoutParentheses first = withoutParentheses second) (lexeme : Lexeme) :
    withoutParentheses (lexeme :: first) = withoutParentheses (lexeme :: second) := by
  rw [← List.singleton_append, ← List.singleton_append (l := second), withoutParentheses_append,
    withoutParentheses_append, same]

end Lexeme

/-! ### Expressions and renderings -/

/-- What is said behind a property for the way in which it is read. -/
def PropertyAccess.lexemes : PropertyAccess → List Lexeme
  | .raw => []
  | .cast target => [.word "as", .word target.word]
  | .isResolved => [.sign '.', .word "is_resolved"]

/-- What a literal says. A truth value is a word. -/
def Value.lexeme : Value → Lexeme
  | .bool truth => .word (if truth then "true" else "false")
  | value => .literal value

variable [RegexEngine]

/-- What an expression says, from left to right and without parentheses that only group. -/
def Expr.lexemes : Expr → List Lexeme
  | .literal value => [value.lexeme]
  | .state fact => [.word fact.word]
  | .property key access =>
    .word "prop" :: .sign '(' :: .text key :: .sign ')' :: access.lexemes
  | .name identifier => [.word identifier]
  | .unary operator operand => .sign operator.sign :: operand.lexemes
  | .binary operator left right => left.lexemes ++ .word operator.sign :: right.lexemes
  | .search subject pattern =>
    subject.lexemes ++ [.word BinaryOperator.matching.sign, .text pattern.source]
  | .quantified relation quantifier body =>
    .word relation.word :: .sign '.' :: .word quantifier.word :: .sign '(' ::
      (body.lexemes ++ [.sign ')'])
  | .count relation => [.word relation.word, .sign '.', .word "length"]

/-- What a rendering says: what its expression says, and the parentheses that are written. -/
def Rendering.lexemes : Rendering → List Lexeme
  | .leaf form => form.expr.lexemes
  | .signed operator _ operand => .sign operator.sign :: operand.lexemes
  | .joined operator left right => left.lexemes ++ .word operator.sign :: right.lexemes
  | .quantified relation quantifier body =>
    .word relation.word :: .sign '.' :: .word quantifier.word :: .sign '(' ::
      (body.lexemes ++ [.sign ')'])
  | .enclosed inner => .sign '(' :: (inner.lexemes ++ [.sign ')'])

/-- Two expressions joined by an operator say what they say, and the operator between them. A
pattern says its text. -/
theorem Expr.lexemes_join (operator : BinaryOperator) (left right : Expr) :
    (join operator left right).lexemes =
      left.lexemes ++ .word operator.sign :: right.lexemes := by
  unfold join
  split
  · rename_i pattern found
    obtain ⟨rfl, rfl⟩ := BinaryOperator.eq_of_pattern? found
    rfl
  · rfl

/-- Apart from parentheses a rendering says what its expression says. -/
theorem Rendering.withoutParentheses_lexemes (rendering : Rendering) :
    Lexeme.withoutParentheses rendering.lexemes =
      Lexeme.withoutParentheses rendering.expr.lexemes := by
  induction rendering with
  | leaf form => rfl
  | signed operator spaced operand inductionHypothesis =>
    exact Lexeme.withoutParentheses_congr inductionHypothesis _
  | joined operator left right leftHypothesis rightHypothesis =>
    have later := Lexeme.withoutParentheses_congr rightHypothesis (.word operator.sign)
    rw [expr, Expr.lexemes_join, lexemes, Lexeme.withoutParentheses_append,
      Lexeme.withoutParentheses_append, leftHypothesis, later]
  | quantified relation quantifier body inductionHypothesis =>
    simp only [expr, lexemes, Expr.lexemes]
    repeat refine Lexeme.withoutParentheses_congr ?_ _
    rw [Lexeme.withoutParentheses_append, Lexeme.withoutParentheses_append, inductionHypothesis]
  | enclosed inner inductionHypothesis =>
    simpa [expr, lexemes] using inductionHypothesis

end WidgetAudit
