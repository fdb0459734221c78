import WidgetAudit.Proofs.Expr.Spelling
import WidgetAudit.Proofs.Grammar.Discipline.Lexemes
import WidgetAudit.Proofs.Grammar.Tokens

/-!
# The scan over tokens

The scan for parentheses knows no tokens, but it can be followed from token to token: two signs are
parentheses, and every other token leaves the count as it was. So what the scan counts in a text can
be counted in the lexemes of the text, and a text that it lets pass is made of renderings that are
not nested too deep.
-/

namespace WidgetAudit.Source

open Grammar Reader

/-- A token that is no parenthesis leaves the count of the scan as it was. -/
theorem overflow?_token_plain {token behind : List Char} {ends : List Char → Prop}
    (isToken : IsToken token ends) (ended : ends behind) (noOpening : token ≠ ['('])
    (noClosing : token ≠ [')']) (limit depth : Nat) :
    overflow? limit depth (token ++ behind) = overflow? limit depth behind := by
  have plainToken (plain : ∀ char ∈ token, isPlain char = true) :
      overflow? limit depth (token ++ behind) = overflow? limit depth behind :=
    overflow?_append_plain (List.all_eq_true.mpr plain) limit depth behind
  have plainDigits {digits : List Char} (areDigits : ∀ char ∈ digits, char.isDigit = true) :
      ∀ char ∈ digits, isPlain char = true := by
    intro char member
    exact isPlain_of_isNamePart (isNamePart_of_isDigit (areDigits char member))
  cases isToken with
  | name start parts =>
    refine plainToken (List.forall_mem_cons.mpr ⟨?_, ?_⟩)
    · exact isPlain_of_isNamePart (isNamePart_of_isNameStart start)
    · exact fun char member => isPlain_of_isNamePart (parts char member)
  | whole _ areDigits => exact plainToken (plainDigits areDigits)
  | fraction _ areDigits _ placesAreDigits =>
    refine plainToken (List.forall_mem_append.mpr ⟨plainDigits areDigits, ?_⟩)
    exact List.forall_mem_cons.mpr ⟨by decide, plainDigits placesAreDigits⟩
  | quoted closed =>
    rw [List.cons_append, overflow?, behindQuote_of_body? (body?_append closed behind),
      List.nil_append]
  | @pair first second listed =>
    have all : (signPairs.all fun pair => isPlain pair.1 && isPlain pair.2) = true := by decide
    have plain := List.all_eq_true.mp all _ listed
    exact plainToken (by simpa using plain)
  | @single char sign =>
    have noQuote : char ≠ '"' := by
      rintro rfl
      exact absurd sign (by decide)
    by_cases bracket : isBracket char = true
    · simp only [isBracket, Bool.or_eq_true, beq_iff_eq] at bracket
      obtain ((rfl | rfl) | rfl) | rfl := bracket
      · exact absurd rfl noOpening
      · exact absurd rfl noClosing
      · exact overflow?_plain (by decide) limit depth behind
      · exact overflow?_plain (by decide) limit depth behind
    · have noBracket : isBracket char = false := by simpa using bracket
      exact Passage.overflow?_solid (isSolid_of_isSign sign ended) noQuote noBracket limit depth

/-! ### Counting in lexemes -/

/-- How many parentheses are open behind the lexemes, if `depth` are open in front of them. There is
no number if more than `limit` were open in between. -/
def depthBehind? (limit : Nat) : (depth : Nat) → List Lexeme → Option Nat
  | depth, [] => some depth
  | depth, lexeme :: later =>
    if lexeme = .sign '(' then
      if limit ≤ depth then none else depthBehind? limit (depth + 1) later
    else if lexeme = .sign ')' then depthBehind? limit (depth - 1) later
    else depthBehind? limit depth later

variable {limit depth : Nat}

/-- Behind two rows of lexemes as many are open as behind the second one, counted from the first. -/
theorem depthBehind?_append (first second : List Lexeme) :
    depthBehind? limit depth (first ++ second) =
      (depthBehind? limit depth first).bind fun between => depthBehind? limit between second := by
  induction first generalizing depth with
  | nil => rfl
  | cons lexeme later inductionHypothesis =>
    simp only [List.cons_append, depthBehind?]
    split
    · split
      · rfl
      · exact inductionHypothesis
    · split <;> exact inductionHypothesis

/-- A lexeme that is no parenthesis leaves the number as it was. -/
theorem depthBehind?_cons {lexeme : Lexeme} (plain : lexeme.isParenthesis = false)
    (later : List Lexeme) :
    depthBehind? limit depth (lexeme :: later) = depthBehind? limit depth later := by
  simp only [Lexeme.isParenthesis, Bool.or_eq_false_iff, beq_eq_false_iff_ne] at plain
  rw [depthBehind?, if_neg plain.1, if_neg plain.2]

/-- So do several of them. -/
theorem depthBehind?_plain {lexemes : List Lexeme}
    (plain : ∀ lexeme ∈ lexemes, lexeme.isParenthesis = false) :
    depthBehind? limit depth lexemes = some depth := by
  induction lexemes with
  | nil => rfl
  | cons lexeme later inductionHypothesis =>
    rw [depthBehind?_cons (plain lexeme List.mem_cons_self)]
    exact inductionHypothesis fun other member => plain other (List.mem_cons_of_mem _ member)

/-- Between parentheses there is room for one less. -/
theorem depthBehind?_enclosed {said later : List Lexeme} {after : Nat}
    (counted : depthBehind? limit depth (.sign '(' :: (said ++ .sign ')' :: later)) = some after) :
    depth + 1 ≤ limit ∧ ∃ inner, depthBehind? limit (depth + 1) said = some inner ∧
      depthBehind? limit (inner - 1) later = some after := by
  rw [depthBehind?, if_pos rfl] at counted
  split at counted
  · cases counted
  · rename_i room
    rw [depthBehind?_append] at counted
    obtain ⟨inner, innerCounted, laterCounted⟩ := Option.bind_eq_some_iff.mp counted
    rw [depthBehind?, if_neg (by decide), if_pos rfl] at laterCounted
    exact ⟨by omega, inner, innerCounted, laterCounted⟩

/-- Not more than the limit are open at the end. -/
theorem depthBehind?_le {lexemes : List Lexeme} {after : Nat} (within : depth ≤ limit)
    (counted : depthBehind? limit depth lexemes = some after) : after ≤ limit := by
  induction lexemes generalizing depth with
  | nil =>
    cases counted
    exact within
  | cons lexeme later inductionHypothesis =>
    simp only [depthBehind?] at counted
    split at counted
    · split at counted
      · cases counted
      · exact inductionHypothesis (by omega) counted
    · split at counted
      · exact inductionHypothesis (by omega) counted
      · exact inductionHypothesis within counted

/-- What the scan lets pass can be counted in its lexemes. -/
theorem exists_depthBehind? {text rest : List Char} {tokens : List (List Char)}
    (lexed : Lexed text tokens rest) (passes : overflow? limit depth text = none) :
    ∃ after, depthBehind? limit depth (tokens.map Lexeme.ofToken) = some after := by
  induction lexed generalizing depth with
  | stay => exact ⟨depth, rfl⟩
  | layout isPiece _ inductionHypothesis =>
    rw [overflow?_layoutPiece (read_layoutPiece isPiece)] at passes
    exact inductionHypothesis passes
  | @token token behind _ _ _ isToken ended _ inductionHypothesis =>
    rw [List.map_cons]
    by_cases opening : token = ['(']
    · subst opening
      simp only [List.singleton_append, overflow?] at passes
      split at passes
      · cases passes
      · rename_i room
        obtain ⟨after, counted⟩ := inductionHypothesis passes
        exact ⟨after, by rw [depthBehind?, if_pos (by decide), if_neg room, counted]⟩
    by_cases closing : token = [')']
    · subst closing
      simp only [List.singleton_append, overflow?] at passes
      obtain ⟨after, counted⟩ := inductionHypothesis passes
      exact ⟨after, by rw [depthBehind?, if_neg (by decide), if_pos (by decide), counted]⟩
    · rw [overflow?_token_plain isToken ended opening closing] at passes
      have plain : (Lexeme.ofToken token).isParenthesis = false := by
        simp only [Lexeme.isParenthesis, Bool.or_eq_false_iff, beq_eq_false_iff_ne]
        exact ⟨fun same => opening (Lexeme.eq_of_ofToken same),
          fun same => closing (Lexeme.eq_of_ofToken same)⟩
      rw [depthBehind?_cons plain]
      exact inductionHypothesis passes

/-! ### Counting in renderings -/

/-- What follows a property opens no parenthesis. -/
theorem plain_access (access : PropertyAccess) :
    ∀ lexeme ∈ access.lexemes, lexeme.isParenthesis = false := by
  cases access with
  | cast target => cases target <;> decide
  | _ => decide

/-- A bare name is no parenthesis. -/
theorem plain_word_of_isIdentifier {name : String} (isName : isIdentifier name = true) :
    (Lexeme.word name).isParenthesis = false := by
  obtain ⟨first, later, form, start⟩ := starts_of_isIdentifier isName
  rw [Lexeme.word, form]
  simp only [Lexeme.isParenthesis, Lexeme.sign, Bool.or_eq_false_iff, beq_eq_false_iff_ne]
  constructor <;>
  · rintro ⟨⟩
    exact absurd start (by decide)

variable [RegexEngine]

/-- Behind a leaf no more parentheses are open than in front of it. -/
theorem depthBehind?_leaf {form : Leaf} (normal : form.expr.isNormal = true) {after : Nat}
    (within : depth ≤ limit) (counted : depthBehind? limit depth form.expr.lexemes = some after) :
    after = depth ∧ depth + (Rendering.leaf form).nesting ≤ limit := by
  have single {lexeme : Lexeme} (plain : lexeme.isParenthesis = false)
      (counted : depthBehind? limit depth [lexeme] = some after) : after = depth := by
    rw [depthBehind?_cons plain] at counted
    exact (Option.some.inj counted).symm
  cases form with
  | literal value =>
    refine ⟨single ?_ counted, within⟩
    cases value with
    | bool truth => cases truth <;> decide
    | _ => rfl
  | state fact => exact ⟨single (by cases fact <;> decide) counted, within⟩
  | count relation =>
    have plain : ∀ lexeme ∈ [.word relation.word, .sign '.', .word "length"],
        Lexeme.isParenthesis lexeme = false := by
      cases relation <;> decide
    rw [Leaf.expr, Expr.lexemes, depthBehind?_plain plain] at counted
    exact ⟨(Option.some.inj counted).symm, within⟩
  | name identifier =>
    simp only [Leaf.expr, Expr.isNormal, isBareName, Bool.and_eq_true] at normal
    exact ⟨single (plain_word_of_isIdentifier normal.1.1.1) counted, within⟩
  | property key access =>
    have opened : depthBehind? limit depth
        (.sign '(' :: ([.text key] ++ .sign ')' :: access.lexemes)) = some after :=
      (depthBehind?_cons (by decide) _).symm.trans counted
    obtain ⟨room, inner, innerCounted, laterCounted⟩ := depthBehind?_enclosed opened
    cases innerCounted
    rw [depthBehind?_plain (plain_access access), Nat.add_sub_cancel] at laterCounted
    exact ⟨(Option.some.inj laterCounted).symm, room⟩

/-- Behind a rendering no more parentheses are open than in front of it, and in between as many as
its nesting says. -/
theorem nesting_of_depthBehind? {rendering : Rendering} (normal : rendering.expr.isNormal = true)
    {after : Nat} (within : depth ≤ limit)
    (counted : depthBehind? limit depth rendering.lexemes = some after) :
    after = depth ∧ depth + rendering.nesting ≤ limit := by
  have enclosed {inner : Rendering} {depth after : Nat}
      (inductionHypothesis : ∀ {depth after : Nat}, depth ≤ limit →
        depthBehind? limit depth inner.lexemes = some after →
          after = depth ∧ depth + inner.nesting ≤ limit)
      (counted : depthBehind? limit depth (.sign '(' :: (inner.lexemes ++ [.sign ')'])) =
        some after) : after = depth ∧ depth + (inner.nesting + 1) ≤ limit := by
    obtain ⟨room, between, innerCounted, laterCounted⟩ := depthBehind?_enclosed counted
    obtain ⟨rfl, fits⟩ := inductionHypothesis room innerCounted
    cases laterCounted
    exact ⟨rfl, by omega⟩
  induction rendering generalizing depth after with
  | leaf form => exact depthBehind?_leaf normal within counted
  | signed operator spaced operand inductionHypothesis =>
    have plain : (Lexeme.sign operator.sign).isParenthesis = false := by cases operator <;> decide
    rw [Rendering.lexemes, depthBehind?_cons plain] at counted
    exact inductionHypothesis normal within counted
  | joined operator left right leftHypothesis rightHypothesis =>
    obtain ⟨leftNormal, rightNormal, _⟩ := Expr.operands_normal normal
    have plain : (Lexeme.word operator.sign).isParenthesis = false := by cases operator <;> decide
    rw [Rendering.lexemes, depthBehind?_append] at counted
    obtain ⟨between, leftCounted, laterCounted⟩ := Option.bind_eq_some_iff.mp counted
    rw [depthBehind?_cons plain] at laterCounted
    obtain ⟨rfl, leftFits⟩ := leftHypothesis leftNormal within leftCounted
    obtain ⟨rfl, rightFits⟩ := rightHypothesis rightNormal within laterCounted
    refine ⟨rfl, ?_⟩
    rw [Rendering.nesting]
    omega
  | quantified relation quantifier body inductionHypothesis =>
    have plain : (Lexeme.word relation.word).isParenthesis = false ∧
        (Lexeme.word quantifier.word).isParenthesis = false :=
      ⟨by cases relation <;> decide, by cases quantifier <;> decide⟩
    rw [Rendering.lexemes, depthBehind?_cons plain.1, depthBehind?_cons (by decide),
      depthBehind?_cons plain.2] at counted
    exact enclosed (inductionHypothesis normal) counted
  | enclosed inner inductionHypothesis => exact enclosed (inductionHypothesis normal) counted

/-- A rendering inside lexemes that can be counted is not nested deeper than the limit. -/
theorem nesting_le_of_infix {rendering : Rendering} (normal : rendering.expr.isNormal = true)
    {lexemes : List Lexeme} (inside : rendering.lexemes <:+: lexemes) {after : Nat}
    (counted : depthBehind? limit 0 lexemes = some after) : rendering.nesting ≤ limit := by
  obtain ⟨front, back, rfl⟩ := inside
  rw [depthBehind?_append, depthBehind?_append] at counted
  obtain ⟨behind, insideCounted, _⟩ := Option.bind_eq_some_iff.mp counted
  obtain ⟨depth, frontCounted, ownCounted⟩ := Option.bind_eq_some_iff.mp insideCounted
  have within := depthBehind?_le (Nat.zero_le limit) frontCounted
  have fits := (nesting_of_depthBehind? normal within ownCounted).2
  omega

end WidgetAudit.Source
