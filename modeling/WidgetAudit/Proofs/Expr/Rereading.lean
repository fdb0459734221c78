import WidgetAudit.Proofs.Expr.Rendering
import WidgetAudit.Proofs.Number.Decimal

/-!
# Expressions that are read back as others

Two kinds of expressions can be written down although no source gives them: a literal with a sign,
whose sign a reader takes for an operator, and a quoted text behind `matches`, of which a reader
makes a search. `reread` is what such an expression is read back as, and `Rendering.ofWritten` is
what the printer writes for it. For a normal expression neither changes anything.
-/

namespace WidgetAudit

/-! ### Literals with a sign -/

/-- The number behind the sign that a literal is written with. The least whole number has none,
because it would not fit into 64 bits. -/
def Value.behindSign? : Value → Option Value
  | .int number => if number.toInt < 0 then (int64? (-number.toInt)).map .int else none
  | .float (.finite true significand exponent canonical) =>
    some (.float (.finite false significand exponent canonical))
  | _ => none

/-- A negative whole number is written as a sign and its opposite. -/
theorem Value.written_negative {number opposite : Int64} (negative : number.toInt < 0)
    (opposed : opposite.toInt = -number.toInt) :
    (Value.int number).written = '-' :: (Value.int opposite).written := by
  obtain ⟨count, counted⟩ := Int.eq_negSucc_of_lt_zero negative
  change (toString number.toInt).toList = '-' :: (toString opposite.toInt).toList
  have positive : -Int.negSucc count = ((count + 1 : Nat) : Int) := rfl
  rw [opposed, counted, positive]
  have text : toString (Int.negSucc count) = "-" ++ toString ((count + 1 : Nat) : Int) := rfl
  rw [text, String.toList_append]
  rfl

/-- A negative floating-point number is written as a sign and its opposite. The sign does not make
a difference to whether a point has to be added. -/
theorem Value.written_negativeFloat {significand : Nat} {exponent : Int}
    (canonical : IsCanonical significand exponent) :
    (Value.float (.finite true significand exponent canonical)).written =
      '-' :: (Value.float (.finite false significand exponent canonical)).written := by
  have text : Shortest.text (.finite true significand exponent canonical) =
      '-' :: Shortest.text (.finite false significand exponent canonical) := rfl
  simp only [written, text, Binary64.isFinite, Bool.true_and, List.contains_cons]
  generalize Shortest.text (.finite false significand exponent canonical) = digits
  have noPoint : ('.' == '-') = false := by decide
  rw [noPoint, Bool.false_or]
  split <;> rfl

/-- A literal with a sign is written as the sign and the number behind it, which has no sign. -/
theorem Value.behindSign?_spec {value number : Value} (found : value.behindSign? = some number) :
    number.isNormal = true ∧ value.written = '-' :: number.written := by
  unfold behindSign? at found
  split at found
  · split at found
    · rename_i negative
      obtain ⟨opposite, fits, rfl⟩ := Option.map_eq_some_iff.mp found
      have opposed := toInt_of_int64? fits
      refine ⟨decide_eq_true ?_, written_negative negative opposed⟩
      omega
    · cases found
  · cases found
    exact ⟨rfl, written_negativeFloat _⟩
  · cases found

/-- A literal without a sign of its own has none that could be taken away. -/
theorem Value.behindSign?_of_normal {value : Value} (normal : value.isNormal = true) :
    value.behindSign? = none := by
  unfold behindSign?
  split
  · exact if_neg (Int.not_lt.mpr (of_decide_eq_true normal))
  · cases normal
  · rfl

/-- The literals that can be written down: those of a source, and those with a sign in front of
one. -/
def Value.isWritable (value : Value) : Bool := value.isNormal || value.behindSign?.isSome

/-! ### Expressions -/

namespace Expr

variable [RegexEngine]

/-- The expressions that can be written down: their literals may have signs, and a text behind
`matches` may stand there as an operand if it is a pattern. -/
def isWritable : Expr → Bool
  | .literal value => value.isWritable
  | .state _ | .property _ _ | .count _ => true
  | .name identifier => isBareName identifier
  | .unary _ operand => operand.isWritable
  | .binary operator left right =>
    left.isWritable && right.isWritable &&
      (!(operator == .matching && right.isText) || (operator.pattern? right).isSome)
  | .search subject _ => subject.isWritable
  | .quantified _ _ body => body.isWritable

/-- What a literal is read back as: the sign of a number is an operator. -/
def rereadLiteral (value : Value) : Expr :=
  match value.behindSign? with
  | some number => .unary .negate (.literal number)
  | none => .literal value

/-- What an expression is read back as that has been written down. -/
def reread : Expr → Expr
  | .literal value => rereadLiteral value
  | .state fact => .state fact
  | .property key access => .property key access
  | .name identifier => .name identifier
  | .unary operator operand => .unary operator operand.reread
  | .binary operator left right => join operator left.reread right.reread
  | .search subject pattern => .search subject.reread pattern
  | .quantified relation quantifier body => .quantified relation quantifier body.reread
  | .count relation => .count relation

/-- A text is read back as itself. -/
theorem reread_of_isText {expr : Expr} (text : expr.isText = true) : expr.reread = expr := by
  unfold isText at text
  split at text
  · rfl
  · cases text

/-- Nothing else is read back as a text. -/
theorem isText_reread (expr : Expr) : expr.reread.isText = expr.isText := by
  cases expr with
  | literal value =>
    cases value with
    | int number =>
      simp only [reread, rereadLiteral]
      split <;> rfl
    | float number =>
      simp only [reread, rereadLiteral]
      split <;> rfl
    | _ => rfl
  | binary operator left right =>
    simp only [reread, join]
    split <;> rfl
  | _ => rfl

/-- A normal expression can be written down. -/
theorem isWritable_of_isNormal {expr : Expr} (normal : expr.isNormal = true) :
    expr.isWritable = true := by
  induction expr with
  | literal value => exact Bool.or_eq_true_iff.mpr (.inl normal)
  | state fact => rfl
  | property key access => rfl
  | name identifier => exact normal
  | unary operator operand inductionHypothesis => exact inductionHypothesis normal
  | binary operator left right leftHypothesis rightHypothesis =>
    simp only [isNormal, Bool.and_eq_true] at normal
    obtain ⟨⟨leftNormal, rightNormal⟩, noText⟩ := normal
    simp only [isWritable, leftHypothesis leftNormal, rightHypothesis rightNormal, noText,
      Bool.true_or, Bool.and_true]
  | search subject pattern inductionHypothesis => exact inductionHypothesis normal
  | quantified relation quantifier body inductionHypothesis => exact inductionHypothesis normal
  | count relation => rfl

/-- A normal expression is read back as itself. -/
theorem reread_of_isNormal {expr : Expr} (normal : expr.isNormal = true) :
    expr.reread = expr := by
  induction expr with
  | literal value => simp only [reread, rereadLiteral, Value.behindSign?_of_normal normal]
  | state fact => rfl
  | property key access => rfl
  | name identifier => rfl
  | unary operator operand inductionHypothesis => rw [reread, inductionHypothesis normal]
  | binary operator left right leftHypothesis rightHypothesis =>
    simp only [isNormal, Bool.and_eq_true, Bool.not_eq_true'] at normal
    obtain ⟨⟨leftNormal, rightNormal⟩, noText⟩ := normal
    rw [reread, leftHypothesis leftNormal, rightHypothesis rightNormal,
      join_of_not_text left noText]
  | search subject pattern inductionHypothesis => rw [reread, inductionHypothesis normal]
  | quantified relation quantifier body inductionHypothesis =>
    rw [reread, inductionHypothesis normal]
  | count relation => rfl

/-- Normal operands make a normal expression, if a text behind `matches` is a pattern. -/
theorem isNormal_join {operator : BinaryOperator} {left right : Expr}
    (leftNormal : left.isNormal = true) (rightNormal : right.isNormal = true)
    (compiles : (operator == .matching && right.isText) = true →
      (operator.pattern? right).isSome = true) : (join operator left right).isNormal = true := by
  unfold join
  split
  · exact leftNormal
  · rename_i missing
    have noText : (operator == .matching && right.isText) = false := by
      rw [Bool.eq_false_iff]
      intro text
      have found := compiles text
      rw [missing] at found
      cases found
    simp only [isNormal, leftNormal, rightNormal, noText, Bool.not_false, Bool.and_true]

/-- A join is read back as the join of what its operands are read back as. -/
theorem reread_join (operator : BinaryOperator) (left right : Expr) :
    (join operator left right).reread = join operator left.reread right.reread := by
  cases found : operator.pattern? right with
  | none =>
    have plain : join operator left right = .binary operator left right := by
      simp only [join, found]
    rw [plain, reread]
  | some pattern =>
    obtain ⟨rfl, rfl⟩ := BinaryOperator.eq_of_pattern? found
    have same : (literal (.string pattern.source)).reread = .literal (.string pattern.source) :=
      rfl
    rw [join_source, same, join_source, reread]

/-- What is read back is normal. -/
theorem isNormal_reread {expr : Expr} (writable : expr.isWritable = true) :
    expr.reread.isNormal = true := by
  induction expr with
  | literal value =>
    simp only [reread, rereadLiteral]
    split
    · rename_i number found
      exact (Value.behindSign?_spec found).1
    · rename_i missing
      change value.isNormal = true
      simpa [isWritable, Value.isWritable, missing] using writable
  | state fact => rfl
  | property key access => rfl
  | name identifier => exact writable
  | unary operator operand inductionHypothesis => exact inductionHypothesis writable
  | binary operator left right leftHypothesis rightHypothesis =>
    simp only [isWritable, Bool.and_eq_true, Bool.or_eq_true, Bool.not_eq_true'] at writable
    obtain ⟨⟨leftWritable, rightWritable⟩, compiles⟩ := writable
    refine isNormal_join (leftHypothesis leftWritable) (rightHypothesis rightWritable) ?_
    intro text
    -- only a text is compiled, and a text is read back as itself
    rw [isText_reread] at text
    rw [reread_of_isText (Bool.and_eq_true_iff.mp text).2]
    rcases compiles with noText | found
    · rw [noText] at text
      cases text
    · exact found
  | search subject pattern inductionHypothesis => exact inductionHypothesis writable
  | quantified relation quantifier body inductionHypothesis => exact inductionHypothesis writable
  | count relation => rfl

end Expr

/-! ### Renderings -/

namespace Rendering

/-- A rendering with the signs in front of numbers as what they are for a reader. -/
def splitSigns : Rendering → Rendering
  | .leaf (.literal value) =>
    match value.behindSign? with
    | some number => .signed .negate false (.leaf (.literal number))
    | none => .leaf (.literal value)
  | .leaf form => .leaf form
  | .signed operator spaced operand => .signed operator spaced operand.splitSigns
  | .joined operator left right => .joined operator left.splitSigns right.splitSigns
  | .quantified relation quantifier body => .quantified relation quantifier body.splitSigns
  | .enclosed inner => .enclosed inner.splitSigns

variable [RegexEngine]

/-- A leaf stays as it is, or it is a literal that becomes a sign and a number. -/
theorem splitSigns_leaf (form : Leaf) :
    splitSigns (.leaf form) = .leaf form ∧ form.expr.reread = form.expr ∨
      ∃ value number, form = .literal value ∧ value.behindSign? = some number ∧
        splitSigns (.leaf form) = .signed .negate false (.leaf (.literal number)) ∧
        form.expr.reread = .unary .negate (.literal number) := by
  cases form with
  | literal value =>
    cases found : value.behindSign? with
    | none => exact .inl (by simp [splitSigns, Leaf.expr, Expr.reread, Expr.rereadLiteral, found])
    | some number =>
      refine .inr ⟨value, number, rfl, found, ?_, ?_⟩
      · simp [splitSigns, found]
      · simp [Leaf.expr, Expr.reread, Expr.rereadLiteral, found]
  | _ => exact .inl ⟨rfl, rfl⟩

/-- The text is the same. -/
theorem text_splitSigns (rendering : Rendering) : rendering.splitSigns.text = rendering.text := by
  induction rendering with
  | leaf form =>
    obtain ⟨same, _⟩ | ⟨value, number, rfl, found, split, _⟩ := splitSigns_leaf form
    · rw [same]
    · rw [split]
      exact (Value.behindSign?_spec found).2.symm
  | signed operator spaced operand inductionHypothesis =>
    simp only [splitSigns, text, inductionHypothesis]
  | joined operator left right leftHypothesis rightHypothesis =>
    simp only [splitSigns, text, leftHypothesis, rightHypothesis]
  | quantified relation quantifier body inductionHypothesis =>
    simp only [splitSigns, text, inductionHypothesis]
  | enclosed inner inductionHypothesis => simp only [splitSigns, text, inductionHypothesis]

/-- The expression that is meant is what the other one is read back as. -/
theorem expr_splitSigns (rendering : Rendering) :
    rendering.splitSigns.expr = rendering.expr.reread := by
  induction rendering with
  | leaf form =>
    obtain ⟨same, unchanged⟩ | ⟨_, _, _, _, split, changed⟩ := splitSigns_leaf form
    · rw [same]
      exact unchanged.symm
    · rw [split]
      exact changed.symm
  | signed operator spaced operand inductionHypothesis =>
    simp only [splitSigns, expr, Expr.reread, inductionHypothesis]
  | joined operator left right leftHypothesis rightHypothesis =>
    simp only [splitSigns, expr, Expr.reread_join, leftHypothesis, rightHypothesis]
  | quantified relation quantifier body inductionHypothesis =>
    simp only [splitSigns, expr, Expr.reread, inductionHypothesis]
  | enclosed inner inductionHypothesis => exact inductionHypothesis

/-- A sign opens no parenthesis. -/
theorem nesting_splitSigns (rendering : Rendering) :
    rendering.splitSigns.nesting = rendering.nesting := by
  induction rendering with
  | leaf form =>
    obtain ⟨same, _⟩ | ⟨value, number, rfl, _, split, _⟩ := splitSigns_leaf form
    · rw [same]
    · rw [split]
      rfl
  | signed operator spaced operand inductionHypothesis => exact inductionHypothesis
  | joined operator left right leftHypothesis rightHypothesis =>
    simp only [splitSigns, nesting, leftHypothesis, rightHypothesis]
  | quantified relation quantifier body inductionHypothesis =>
    simp only [splitSigns, nesting, inductionHypothesis]
  | enclosed inner inductionHypothesis => simp only [splitSigns, nesting, inductionHypothesis]

/-- A number with a sign is looser than one without, but tighter than every binary operator. -/
theorem tightness_splitSigns (rendering : Rendering) :
    min prefixTightness rendering.tightness ≤ rendering.splitSigns.tightness := by
  cases rendering with
  | leaf form =>
    obtain ⟨same, _⟩ | ⟨_, _, _, _, split, _⟩ := splitSigns_leaf form
    · rw [same]
      exact Nat.min_le_right _ _
    · rw [split]
      exact Nat.min_le_left _ _
  | _ => exact Nat.min_le_right _ _

/-- No parentheses are wanted around the sign of a number. -/
theorem isGrouped_splitSigns {rendering : Rendering} (grouped : rendering.isGrouped = true) :
    rendering.splitSigns.isGrouped = true := by
  induction rendering with
  | leaf form =>
    obtain ⟨same, _⟩ | ⟨_, _, _, _, split, _⟩ := splitSigns_leaf form
    · rw [same, isGrouped]
    · rw [split]
      rfl
  | signed operator spaced operand inductionHypothesis =>
    simp only [isGrouped, Bool.and_eq_true, decide_eq_true_eq] at grouped
    have tight := tightness_splitSigns operand
    simp only [splitSigns, isGrouped, inductionHypothesis grouped.1, Bool.true_and,
      decide_eq_true_eq]
    omega
  | joined operator left right leftHypothesis rightHypothesis =>
    simp only [isGrouped, Bool.and_eq_true, decide_eq_true_eq] at grouped
    obtain ⟨⟨⟨leftGrouped, rightGrouped⟩, leftTight⟩, rightTight⟩ := grouped
    have binary : operator.tightness < prefixTightness := by cases operator <;> decide
    have leftMin := tightness_splitSigns left
    have rightMin := tightness_splitSigns right
    simp only [splitSigns, isGrouped, leftHypothesis leftGrouped, rightHypothesis rightGrouped,
      Bool.true_and, Bool.and_eq_true, decide_eq_true_eq]
    omega
  | quantified relation quantifier body inductionHypothesis => exact inductionHypothesis grouped
  | enclosed inner inductionHypothesis => exact inductionHypothesis grouped

/-- A row of signs becomes longer by one at most. -/
theorem leadingSigns_splitSigns (rendering : Rendering) :
    rendering.splitSigns.leadingSigns ≤ rendering.leadingSigns + 1 := by
  induction rendering with
  | leaf form =>
    obtain ⟨same, _⟩ | ⟨_, _, _, _, split, _⟩ := splitSigns_leaf form
    · rw [same]
      exact Nat.le_succ _
    · rw [split]
      exact Nat.le_refl _
  | signed operator spaced operand inductionHypothesis =>
    exact Nat.succ_le_succ inductionHypothesis
  | _ => exact Nat.zero_le _

/-- Splitting the signs off makes the longest row at most one sign longer. -/
theorem longestRow_splitSigns (rendering : Rendering) :
    rendering.splitSigns.longestRow ≤ rendering.longestRow + 1 := by
  induction rendering with
  | leaf form =>
    obtain ⟨same, _⟩ | ⟨_, _, _, _, split, _⟩ := splitSigns_leaf form
    · rw [same]
      exact Nat.le_succ _
    · rw [split]
      exact Nat.le_refl _
  | signed operator spaced operand inductionHypothesis =>
    have leading := leadingSigns_splitSigns operand
    simp only [splitSigns, longestRow]
    omega
  | joined operator left right leftHypothesis rightHypothesis =>
    simp only [splitSigns, longestRow]
    omega
  | quantified relation quantifier body inductionHypothesis => exact inductionHypothesis
  | enclosed inner inductionHypothesis => exact inductionHypothesis

/-- What is printed for an expression means what the expression is read back as. -/
theorem reread_expr_ofExpr (original : Expr) :
    (ofExpr original).expr.reread = original.reread := by
  induction original with
  | literal value => rfl
  | state fact => rfl
  | property key access => rfl
  | name identifier => rfl
  | unary operator operand inductionHypothesis =>
    simp only [ofExpr, expr, Expr.reread, inductionHypothesis]
  | binary operator left right leftHypothesis rightHypothesis =>
    simp only [ofExpr, expr, Expr.reread_join, Expr.reread, leftHypothesis, rightHypothesis]
  | search subject pattern inductionHypothesis =>
    simp only [ofExpr, expr, Leaf.expr, Expr.join_source, Expr.reread, inductionHypothesis]
  | quantified relation quantifier body inductionHypothesis =>
    simp only [ofExpr, expr, Expr.reread, inductionHypothesis]
  | count relation => rfl

/-- The rendering that is printed, as a reader takes it. -/
def ofWritten (expr : Expr) : Rendering := (ofExpr expr).splitSigns

/-- The rendering of an expression as it is written has the written text. -/
theorem text_ofWritten (expr : Expr) : (ofWritten expr).text = expr.written :=
  (text_splitSigns _).trans (text_ofExpr expr)

/-- The rendering of what is written stands for the expression that is read back. -/
theorem expr_ofWritten (expr : Expr) : (ofWritten expr).expr = expr.reread :=
  (expr_splitSigns _).trans (reread_expr_ofExpr expr)

/-- The rendering of what is written nests as deep as the expression. -/
theorem nesting_ofWritten (expr : Expr) : (ofWritten expr).nesting = expr.nesting :=
  (nesting_splitSigns _).trans (nesting_ofExpr expr)

/-- What is written is grouped as the table of operators wants it. -/
theorem isGrouped_ofWritten (expr : Expr) : (ofWritten expr).isGrouped = true :=
  isGrouped_splitSigns (isGrouped_ofExpr expr)

/-- No more than two signs stand in a row in what is written: each operation has parentheses of its
own. -/
theorem longestRow_ofWritten (expr : Expr) : (ofWritten expr).longestRow ≤ 2 :=
  Nat.le_trans (longestRow_splitSigns _) (Nat.succ_le_succ (longestRow_ofExpr expr))

end Rendering

end WidgetAudit
