import WidgetAudit.Proofs.Grammar.Operands
import WidgetAudit.Source.Nesting

/-!
# What the scan for parentheses counts

Before a source is read, a scan of its characters decides whether it nests too deep. The scan
knows nothing of expressions. `Opens count text` says what it makes of a text in any place of
a source: if `count` more parentheses may be opened there, the text is passed over and changes
nothing for what follows; if not, the scan stops inside it. Texts that are written one after
the other open the larger of their two numbers, and parentheses around a text open one more.

In this sense a rendering opens exactly as many parentheses as its nesting says. Quotes are
what makes this worth proving: parentheses, signs of comments and escaped quotes inside them
count for nothing.
-/

namespace WidgetAudit.Source

/-- A text, in any place of a source, opens so many parentheses at once. -/
structure Opens (count : Nat) (text : List Char) : Prop where
  passed : ∀ {limit depth : Nat}, depth + count ≤ limit → ∀ following,
    overflow? limit depth (text ++ following) = overflow? limit depth following
  stopped : ∀ {limit depth : Nat}, depth ≤ limit → limit < depth + count → ∀ following,
    (overflow? limit depth (text ++ following)).isSome = true

/-! ### Putting texts together -/

/-- An empty text opens nothing. -/
theorem opens_nil : Opens 0 [] :=
  ⟨fun _ _ => rfl, fun within beyond => absurd within (Nat.not_le.mpr beyond)⟩

/-- One text after the other opens the larger number. -/
theorem Opens.append {count other : Nat} {first second : List Char} (opens : Opens count first)
    (opensOther : Opens other second) : Opens (max count other) (first ++ second) := by
  constructor
  · intro limit depth within following
    rw [List.append_assoc, opens.passed (by omega), opensOther.passed (by omega)]
  · intro limit depth within beyond following
    rw [List.append_assoc]
    by_cases passes : depth + count ≤ limit
    · rw [opens.passed passes]
      exact opensOther.stopped within (by omega) following
    · exact opens.stopped within (by omega) _

/-- A text that opens nothing may stand in front. -/
theorem Opens.behind {count : Nat} {first second : List Char} (opens : Opens count second)
    (plain : Opens 0 first) : Opens count (first ++ second) := by
  simpa only [Nat.zero_max] using plain.append opens

/-- A text that opens nothing may stand behind. -/
theorem Opens.before {count : Nat} {first second : List Char} (opens : Opens count first)
    (plain : Opens 0 second) : Opens count (first ++ second) := by
  simpa only [Nat.max_zero] using opens.append plain

/-- Parentheses around a text open one more. -/
theorem Opens.enclosed {count : Nat} {text : List Char} (opens : Opens count text) :
    Opens (count + 1) ('(' :: (text ++ [')'])) := by
  have form : ∀ following, ('(' :: (text ++ [')'])) ++ following =
      '(' :: (text ++ ')' :: following) := by simp
  constructor
  · intro limit depth within following
    have room : ¬ limit ≤ depth := by omega
    rw [form, overflow?, if_neg room, opens.passed (by omega), overflow?, Nat.add_sub_cancel]
  · intro limit depth within beyond following
    rw [form, overflow?]
    split
    · rfl
    · exact opens.stopped (by omega) (by omega) _

/-! ### Texts that open nothing -/

/-- A character that means nothing to the scan. -/
def isPlain (char : Char) : Bool :=
  char != '"' && char != '#' && char != '/' && char != '(' && char != ')'

/-- The scan passes over a plain character. -/
theorem overflow?_plain {char : Char} (plain : isPlain char = true) (limit depth : Nat)
    (rest : List Char) : overflow? limit depth (char :: rest) = overflow? limit depth rest := by
  simp only [isPlain, Bool.and_eq_true, bne_iff_ne] at plain
  obtain ⟨⟨⟨⟨noQuote, noHash⟩, noSlash⟩, noOpening⟩, noClosing⟩ := plain
  exact overflow?.eq_7 limit depth char rest noQuote noHash (fun _ slash _ => noSlash slash)
    noOpening noClosing

/-- What is passed over everywhere opens nothing. -/
theorem opens_of_passed {text : List Char}
    (passed : ∀ limit depth following,
      overflow? limit depth (text ++ following) = overflow? limit depth following) :
    Opens 0 text :=
  ⟨fun _ following => passed _ _ following,
    fun within beyond => absurd within (Nat.not_le.mpr beyond)⟩

/-- The scan passes over plain characters. -/
theorem overflow?_append_plain {text : List Char} (plain : text.all isPlain = true)
    (limit depth : Nat) (following : List Char) :
    overflow? limit depth (text ++ following) = overflow? limit depth following := by
  induction text with
  | nil => rfl
  | cons char others inductionHypothesis =>
    obtain ⟨isFirst, areOthers⟩ := Bool.and_eq_true_iff.mp plain
    rw [List.cons_append, overflow?_plain isFirst]
    exact inductionHypothesis areOthers

/-- Plain characters open nothing. -/
theorem opens_plain {text : List Char} (plain : text.all isPlain = true) :
    Opens 0 text :=
  opens_of_passed (overflow?_append_plain plain)

/-- The scan leaves a quoted text where the grammar does. -/
theorem behindQuote_of_body? {text content behind : List Char}
    (found : Quoted.body? text = some (content, behind)) : behindQuote text = behind := by
  fun_induction Quoted.body? text generalizing content behind with
  | case1 => cases found
  | case2 later =>
    cases found
    rfl
  | case3 => cases found
  | case4 char later inductionHypothesis =>
    obtain ⟨inner, innerFound, same⟩ := Option.map_eq_some_iff.mp found
    cases same
    rw [behindQuote]
    exact inductionHypothesis innerFound
  | case5 char later noQuote noLast noEscape inductionHypothesis =>
    obtain ⟨inner, innerFound, same⟩ := Option.map_eq_some_iff.mp found
    cases same
    rw [behindQuote]
    · exact inductionHypothesis innerFound
    all_goals assumption

/-- The scan leaves what has been written between quotes behind its closing quote. -/
theorem behindQuote_written (content following : List Char) :
    behindQuote (content.flatMap Quoted.escaped ++ '"' :: following) = following :=
  behindQuote_of_body? (Quoted.body?_written content following)

/-- The scan comes through a quoted text without a change. -/
theorem overflow?_written (content following : List Char) (limit depth : Nat) :
    overflow? limit depth (Quoted.written content ++ following) =
      overflow? limit depth following := by
  have form : Quoted.written content ++ following =
      '"' :: (content.flatMap Quoted.escaped ++ '"' :: following) := by
    simp [Quoted.written]
  rw [form, overflow?, behindQuote_written]

/-- A quoted text opens nothing, whatever it contains. -/
theorem opens_quoted (content : List Char) : Opens 0 (Quoted.written content) :=
  opens_of_passed fun limit depth following => overflow?_written content following limit depth

/-- A character of a name is plain. -/
theorem isPlain_of_isNamePart {char : Char} (part : Grammar.isNamePart char = true) :
    isPlain char = true := by
  have differs : ∀ other, Grammar.isNamePart other = false → char ≠ other := by
    rintro other no rfl
    exact absurd part (by simp [no])
  simp only [isPlain, Bool.and_eq_true, bne_iff_ne]
  exact ⟨⟨⟨⟨differs _ (by decide), differs _ (by decide)⟩, differs _ (by decide)⟩,
    differs _ (by decide)⟩, differs _ (by decide)⟩

/-- Characters of names open nothing. -/
theorem opens_nameParts {text : List Char}
    (parts : ∀ char ∈ text, Grammar.isNamePart char = true) : Opens 0 text := by
  apply opens_plain
  rw [List.all_eq_true]
  intro char member
  exact isPlain_of_isNamePart (parts char member)

/-- A name opens nothing. -/
theorem opens_identifier {name : String} (isName : isIdentifier name = true) :
    Opens 0 name.toList := by
  apply opens_nameParts
  intro char member
  unfold isIdentifier at isName
  split at isName
  · cases isName
  · rename_i first others form
    obtain ⟨start, parts⟩ := Bool.and_eq_true_iff.mp isName
    rw [form] at member
    rcases List.mem_cons.mp member with rfl | inOthers
    · exact Grammar.isNamePart_of_isNameStart start
    · exact List.all_eq_true.mp parts char inOthers

/-- An operator between its spaces opens nothing; the one slash of a division begins no
comment, because a space follows it. -/
theorem opens_operator (joint : BinaryOperator) :
    Opens 0 (' ' :: (joint.sign.toList ++ [' '])) := by
  by_cases slash : joint = .divide
  · subst slash
    apply opens_of_passed
    intro limit depth following
    change overflow? limit depth (' ' :: '/' :: ' ' :: following) = _
    rw [overflow?_plain (by decide), overflow?.eq_7 limit depth '/' (' ' :: following)
      (by decide) (by decide) (fun _ _ doubled => by cases doubled) (by decide) (by decide),
      overflow?_plain (by decide)]
  · apply opens_plain
    cases joint <;> first
      | exact absurd rfl slash
      | decide

/-! ### Expressions -/

/-- Digits open nothing. -/
theorem opens_digits {text : List Char} (digits : ∀ char ∈ text, char.isDigit = true) :
    Opens 0 text := by
  apply opens_nameParts
  intro char member
  exact Grammar.isNamePart_of_isDigit (digits char member)

/-- A literal opens nothing. -/
theorem opens_literal {value : Value} (normal : value.isNormal = true) :
    Opens 0 value.written := by
  cases value with
  | null => cases normal
  | bool truth => cases truth <;> exact opens_plain (by decide)
  | int number =>
    rw [Grammar.written_int (of_decide_eq_true normal)]
    exact opens_digits Shortest.isDigit_of_mem_toDigits
  | float number =>
    cases number with
    | nan => cases normal
    | infinite negative => cases normal
    | finite negative significand exponent canonical =>
      obtain rfl : negative = false := by simpa [Value.isNormal] using normal
      obtain ⟨whole, places, form, writes⟩ := Value.written_float canonical
      have point : Opens 0 ['.'] := opens_plain (by decide)
      have fraction : Opens 0 ('.' :: places) := (opens_digits writes.places_digits).behind point
      rw [form]
      exact fraction.behind (opens_digits writes.whole_digits)
  | string content => exact opens_quoted content.toList

variable [RegexEngine]

/-- A property opens the one parenthesis around its key. -/
theorem opens_property (key : String) (access : PropertyAccess) :
    Opens 1 (Expr.property key access).written := by
  have form : (Expr.property key access).written =
      "prop".toList ++ (('(' :: (Quoted.written key.toList ++ [')'])) ++ access.written) := by
    simp [Expr.written]
  have suffix : Opens 0 access.written := by
    cases access with
    | raw => exact opens_nil
    | cast target => cases target <;> exact opens_plain (by decide)
    | isResolved => exact opens_plain (by decide)
  rw [form]
  exact ((opens_quoted key.toList).enclosed.before suffix).behind (opens_plain (by decide))

/-- A rendering opens as many parentheses as its nesting says. -/
theorem opens_rendering {rendering : Rendering} (normal : rendering.expr.isNormal = true) :
    Opens rendering.nesting rendering.text := by
  induction rendering with
  | leaf form =>
    cases form with
    | literal value => exact opens_literal normal
    | state fact =>
      have word : Opens 0 fact.word.toList := by cases fact <;> exact opens_plain (by decide)
      exact word
    | property key access => exact opens_property key access
    | name identifier =>
      simp only [Rendering.expr, Leaf.expr, Expr.isNormal, isBareName, Bool.and_eq_true] at normal
      exact opens_identifier normal.1.1.1
    | count relation =>
      have question : Opens 0 (relation.word.toList ++ ".length".toList) := by
        cases relation <;> exact opens_plain (by decide)
      exact question
  | signed operator spaced operand inductionHypothesis =>
    have sign : Opens 0 (operator.sign :: (if spaced then [' '] else [])) := by
      cases operator <;> cases spaced <;> exact opens_plain (by decide)
    exact (inductionHypothesis normal).behind sign
  | joined operator left right leftHypothesis rightHypothesis =>
    obtain ⟨leftNormal, rightNormal, _⟩ := Expr.operands_normal normal
    have form : (Rendering.joined operator left right).text =
        left.text ++ ((' ' :: (operator.sign.toList ++ [' '])) ++ right.text) := by
      simp [Rendering.text]
    rw [form]
    exact (leftHypothesis leftNormal).append
      ((rightHypothesis rightNormal).behind (opens_operator operator))
  | quantified relation quantifier body inductionHypothesis =>
    have form : (Rendering.quantified relation quantifier body).text =
        (relation.word.toList ++ '.' :: quantifier.word.toList) ++
          ('(' :: (body.text ++ [')'])) := by
      simp [Rendering.text]
    have head : Opens 0 (relation.word.toList ++ '.' :: quantifier.word.toList) := by
      cases relation <;> cases quantifier <;> exact opens_plain (by decide)
    rw [form]
    exact (inductionHypothesis normal).enclosed.behind head
  | enclosed inner inductionHypothesis => exact (inductionHypothesis normal).enclosed

end WidgetAudit.Source
