import WidgetAudit.Pattern.GapEngine
import WidgetAudit.Proofs.Grammar.Spacing.Rules
import WidgetAudit.Proofs.Source.Outcome
import WidgetAudit.Proofs.Source.Tokens

/-!
# Layout between the tokens of a source

A source of one rule may be spread out: behind each of its tokens there is room for blanks and
comments, and the rule stays the same. The readers of the grammar make the same of both texts, and
the scan for parentheses sees the same parentheses in them.

One boundary is closed. In the question whether a property is resolved nothing may stand between the
point and the word, although layout may stand in front of that point, and behind the point of a
relation. A source with layout there is refused.
-/

namespace WidgetAudit

open Grammar Reader

/-! ### Scanning -/

namespace Source

/-- The scan leaves a token in the same way in front of both texts: a parenthesis is counted, and
nothing else is looked at. -/
theorem overflow?_token {token tight wide : List Char} {ends : List Char → Prop} {limit : Nat}
    (isToken : IsToken token ends) (ended : ends tight) (endedWide : ends wide)
    (onward : ∀ depth, overflow? limit depth tight = none → overflow? limit depth wide = none)
    (depth : Nat) (passes : overflow? limit depth (token ++ tight) = none) :
    overflow? limit depth (token ++ wide) = none := by
  by_cases opening : token = ['(']
  · subst opening
    simp only [List.singleton_append, overflow?] at passes ⊢
    split at passes
    · cases passes
    · rename_i room
      rw [if_neg room]
      exact onward _ passes
  by_cases closing : token = [')']
  · subst closing
    simp only [List.singleton_append, overflow?] at passes ⊢
    exact onward _ passes
  · rw [overflow?_token_plain isToken ended opening closing] at passes
    rw [overflow?_token_plain isToken endedWide opening closing]
    exact onward depth passes

/-- The scan that passes over a text passes over the wider one. -/
theorem overflow?_ahead {boundary : Boundary} {tight wide : List Char}
    (ahead : boundary.Ahead tight wide) (limit : Nat) :
    ∀ depth, overflow? limit depth tight = none → overflow? limit depth wide = none := by
  induction ahead with
  | here =>
    refine overflow?_token boundary.isToken boundary.ended boundary.endedWide ?_
    intro depth passes
    obtain ⟨rest, read⟩ := layout_total boundary.behind
    have readWide := (read_layout_fill boundary.isSpacing.fill boundary.behind).trans read
    rwa [overflow?_layout readWide, ← overflow?_layout read]
  | layout isPiece isPieceWide _ inductionHypothesis =>
    intro depth passes
    rw [overflow?_layoutPiece (read_layoutPiece isPiece)] at passes
    rw [overflow?_layoutPiece (read_layoutPiece isPieceWide)]
    exact inductionHypothesis depth passes
  | token isToken ended endedWide _ inductionHypothesis =>
    exact overflow?_token isToken ended endedWide inductionHypothesis

end Source

/-! ### Tokens that follow one another -/

/-- In a text, behind the characters in front, two tokens stand with nothing but layout between
them. -/
structure Adjacent (text front first behind second : List Char) : Prop where
  form : text = front ++ (first ++ behind)
  earlier : ∃ tokens, Lexed text tokens (first ++ behind)
  isToken : ∃ ends, IsToken first ends ∧ ends behind
  next : ∃ rest, Lexed behind [second] rest

/-- The next token stands behind the layout. -/
theorem Grammar.Lexed.behind_layout {text token rest : List Char} {tokens : List (List Char)}
    (lexed : Lexed text (token :: tokens) rest) :
    ∃ ends behind, Grammar.layout.read text = .ok ((), token ++ behind) ∧ IsToken token ends ∧
      ends behind := by
  generalize form : token :: tokens = all at lexed
  induction lexed with
  | stay => cases form
  | layout isPiece _ inductionHypothesis =>
    obtain ⟨ends, behind, read, token⟩ := inductionHypothesis form
    exact ⟨ends, behind, (read_layout_piece (read_layoutPiece isPiece)).trans read, token⟩
  | token isToken ended _ _ =>
    cases form
    exact ⟨_, _, read_layout_solid (isToken.isSolid ended), isToken, ended⟩

/-- A token from which a word is read is the word. -/
theorem Grammar.IsToken.eq_of_read {token behind rest : List Char} {ends : List Char → Prop}
    (isToken : IsToken token ends) (ended : ends behind) {word : String}
    (read : identifier.read (token ++ behind) = .ok (word, rest)) : token = word.toList := by
  obtain ⟨name, _, accepts⟩ | declines := tokenwise_identifier isToken
  · obtain ⟨first, middle, firstRead, laterRead⟩ := bind_accepts read
    obtain ⟨others, last, othersRead, given⟩ := bind_accepts laterRead
    cases given
    obtain ⟨form, _⟩ := charWhere_accepts firstRead
    obtain ⟨rfl, _⟩ := run_accepts othersRead
    cases read.symm.trans (accepts behind ended)
    rw [String.toList_ofList]
    exact List.append_cancel_right form
  · obtain ⟨_, refused, _⟩ := declines behind ended
    cases read.symm.trans refused

/-- A token that is a word is read as the word. -/
theorem Grammar.IsToken.read_word {token behind : List Char} {ends : List Char → Prop}
    (isToken : IsToken token ends) {word : String} (same : token = word.toList)
    (isName : isIdentifier word = true) (ended : ends behind) :
    (keyword word).read (token ++ behind) = .ok ((), behind) := by
  obtain ⟨name, _, accepts⟩ | declines := tokenwise_identifier isToken
  · have nameRead := accepts behind ended
    obtain rfl : name = word :=
      String.toList_injective ((isToken.eq_of_read ended nameRead).symm.trans same)
    have found : (identifier.filtered (· == name)).read (token ++ behind) = .ok (name, behind) :=
      read_filtered nameRead (beq_self_eq_true name)
    exact read_remarking (read_map found fun _ => ()) _
  · obtain ⟨first, later, form, start⟩ := starts_of_isIdentifier isName
    obtain ⟨_, refused, _⟩ := declines behind ended
    rw [same, form, List.cons_append, identifier, read_bind (read_charWhere start _)] at refused
    cases refused

/-- A boundary is torn if its tokens are a point and the word `is_resolved`. -/
theorem Grammar.Boundary.torn_iff {boundary : Boundary} {second rest : List Char}
    (next : Lexed boundary.behind [second] rest) :
    boundary.Torn ↔ boundary.first = ['.'] ∧ second = "is_resolved".toList := by
  obtain ⟨ends, behind, layoutRead, isToken, ended⟩ := next.behind_layout
  have sameWord : (layout >>= fun _ => keyword "is_resolved").read boundary.behind =
      (keyword "is_resolved").read (second ++ behind) := read_bind layoutRead _
  simp only [Boundary.Torn, sameWord]
  refine and_congr_right fun _ => ⟨?_, ?_⟩
  · rintro ⟨last, wordRead⟩
    exact isToken.eq_of_read ended (keyword_accepts wordRead)
  · intro same
    exact ⟨behind, isToken.read_word same (by decide) ended⟩

/-! ### Sources -/

namespace Rule

section AnyEngine

variable [RegexEngine]

/-- A source of a rule passes the scan and is read by the grammar. -/
theorem parse_accepts {source : String} {rule : Rule} (accepted : Rule.parse source = .ok rule) :
    Source.overflow? Source.nestingLimit 0 source.toList = none ∧
      ∃ rest, (oneRule Source.nestingLimit).read source.toList = .ok (rule, rest) :=
  Source.read_accepts_iff.mp accepted

/-- A source is refused if the grammar refuses it, whether the scan lets it pass or not. -/
theorem parse_refuses {text : List Char} {refusal : Refusal}
    (refused : (oneRule Source.nestingLimit).read text = .error refusal) :
    ∃ error, Rule.parse (String.ofList text) = .error error := by
  have same : (String.ofList text).toList = text := String.toList_ofList
  cases scanned : Source.overflow? Source.nestingLimit 0 (String.ofList text).toList with
  | some rest => exact ⟨_, Source.read_of_overflow scanned⟩
  | none => exact ⟨_, Source.read_of_refusal scanned (same.symm ▸ refused)⟩

/-- Layout may be put between the tokens of a source. The source is made of tokens and layout, and
behind each token that another one follows blanks and comments may be put that begin with a blank:
the rule stays the same. Only between a point and the word `is_resolved` they may not; there the
source with the layout is refused. -/
theorem parse_spaced {source : String} {rule : Rule} (accepted : Rule.parse source = .ok rule) :
    (∃ tokens, Lexed source.toList tokens []) ∧
      ∀ {front first behind second gap : List Char},
        Adjacent source.toList front first behind second → IsSpacing gap →
          (¬ (first = ".".toList ∧ second = "is_resolved".toList) →
            Rule.parse (String.ofList (front ++ (first ++ (gap ++ behind)))) = .ok rule) ∧
          (first = ".".toList ∧ second = "is_resolved".toList →
            ∃ error, Rule.parse (String.ofList (front ++ (first ++ (gap ++ behind)))) =
              .error error) := by
  obtain ⟨passes, rest, read⟩ := parse_accepts accepted
  constructor
  · have alone : AcceptsAlone source.toList :=
      ⟨Source.nestingLimit, .inl (by simp [read, Except.isOk, Except.toBool])⟩
    obtain ⟨passed, passage⟩ := passes_of_acceptsAlone alone
    exact lexed_of_passage passage
  intro front first behind second gap adjacent isSpacing
  obtain ⟨form, ⟨tokens, lexed⟩, ⟨ends, isToken, ended⟩, last, next⟩ := adjacent
  let boundary : Boundary := ⟨first, ends, behind, gap, isToken, ended, isSpacing⟩
  have torn : boundary.Torn ↔ first = ".".toList ∧ second = "is_resolved".toList :=
    Boundary.torn_iff next
  rw [← torn]
  obtain ⟨other, otherForm, ahead⟩ := boundary.ahead_of_lexed lexed
  obtain rfl : front = other := List.append_cancel_right (form.symm.trans otherForm)
  have wideRead := (carries_oneRule Source.nestingLimit).accepts (.ahead ahead) read
  constructor
  · intro whole
    obtain ⟨wideRest, read, _⟩ | ⟨impossible, _⟩ := wideRead
    · have wide := Source.overflow?_ahead ahead _ 0 passes
      simp only [Rule.parse, Source.read, String.toList_ofList, wide, read, boundary]
    · exact absurd impossible whole
  · intro torn
    obtain ⟨_, _, whole, _⟩ | ⟨_, refusal, refused, _⟩ := wideRead
    · exact absurd torn whole
    · exact parse_refuses refused

/-- The rule of that source. -/
def compactRule : Rule where
  name := "r"
  selectors := [.any]
  details := .empty
  guard := none
  ensure := .property "a" .isResolved
  report := "x"

end AnyEngine

/-- What stands in front of a parenthesis in a source with no more layout than it needs. -/
def compactFront : List Char :=
  "rule".toList ++ (['"', 'r', '"'] ++ ("on".toList ++ ([' '] ++ ("any".toList ++ (['\x7b'] ++
    ("ensure".toList ++ ([':'] ++ ("prop".toList ++ (['('] ++ ['"', 'a', '"'])))))))))

/-- What stands behind that parenthesis and the point behind it. -/
def compactBehind : List Char := "is_resolved".toList ++ " report:\"x\"\x7d".toList

/-- A source that asks whether a property is resolved. -/
def compactSource : String := String.ofList (compactFront ++ ([')'] ++ (['.'] ++ compactBehind)))

/-- Tokens lead up to the parenthesis. -/
theorem lexed_compactFront (later : List Char) :
    ∃ tokens, Lexed (compactFront ++ later) tokens later := by
  simp only [compactFront, List.append_assoc]
  exact ⟨_, .token (isToken_identifier (by decide)) (avoids_cons rfl _) <|
    .token (.quoted rfl) trivial <|
    .token (isToken_identifier (by decide)) (avoids_cons rfl _) <|
    .layout (.blanks (by simp) rfl (isSolid_of_isIdentifier (by decide) _).noBlank) <|
    .token (isToken_identifier (by decide)) (avoids_cons rfl _) <|
    .token (.single (by decide)) (avoids_joins (by decide) (by decide) _) <|
    .token (isToken_identifier (by decide)) (avoids_cons rfl _) <|
    .token (.single (by decide)) (avoids_joins (by decide) (by decide) _) <|
    .token (isToken_identifier (by decide)) (avoids_cons rfl _) <|
    .token (.single (by decide)) (avoids_joins (by decide) (by decide) _) <|
    .token (.quoted rfl) trivial <| .stay _⟩

/-- A parenthesis and a point are tokens in front of everything. -/
theorem isToken_lone {char : Char} (sign : isSign char = true)
    (lone : (signPairs.all fun pair => pair.1 != char) = true) (noSlash : char ≠ '/')
    (behind : List Char) : ∃ ends, IsToken [char] ends ∧ ends behind :=
  ⟨_, .single sign, avoids_joins lone noSlash behind⟩

/-- The parenthesis and the point follow one another. -/
theorem adjacent_parenthesis :
    Adjacent compactSource.toList compactFront [')'] (['.'] ++ compactBehind) ['.'] where
  form := by rw [compactSource, String.toList_ofList]
  earlier := by
    rw [compactSource, String.toList_ofList]
    exact lexed_compactFront _
  isToken := isToken_lone (by decide) (by decide) (by decide) _
  next := by
    obtain ⟨ends, isToken, ended⟩ :=
      isToken_lone (show isSign '.' = true by decide) (by decide) (by decide) compactBehind
    exact ⟨_, .token isToken ended (.stay _)⟩

/-- The point and the word `is_resolved` follow one another. -/
theorem adjacent_point :
    Adjacent compactSource.toList (compactFront ++ [')']) ['.'] compactBehind
      "is_resolved".toList where
  form := by rw [compactSource, String.toList_ofList, List.append_assoc]
  earlier := by
    rw [compactSource, String.toList_ofList]
    obtain ⟨tokens, lexed⟩ := lexed_compactFront ([')'] ++ (['.'] ++ compactBehind))
    obtain ⟨ends, isToken, ended⟩ :=
      isToken_lone (show isSign ')' = true by decide) (by decide) (by decide)
        (['.'] ++ compactBehind)
    exact ⟨_, lexed.append (.token isToken ended (.stay _))⟩
  isToken := isToken_lone (by decide) (by decide) (by decide) _
  next := ⟨_, .token (isToken_identifier (by decide)) (avoids_cons rfl _) (.stay _)⟩

/-- A space, a comment with a parenthesis in it, and the end of its line. -/
def commentGap : List Char := ' ' :: '/' :: '/' :: ([' ', '('] ++ '\n' :: [])

/-- The gap is layout, and its comment ends with its line. -/
theorem isSpacing_commentGap : IsSpacing commentGap :=
  ⟨⟨_, _, rfl, rfl⟩, .blank rfl (.slashes (by simp [IsLine]) .nil)⟩

/-- In front of the point there is room for a comment. -/
theorem parse_spaced_parenthesis :
    Rule.parse compactSource = .ok compactRule ∧
      Adjacent compactSource.toList compactFront [')'] (['.'] ++ compactBehind) ['.'] ∧
      IsSpacing commentGap ∧
      Rule.parse (String.ofList (compactFront ++ ([')'] ++ (commentGap ++
        (['.'] ++ compactBehind))))) = .ok compactRule := by
  have accepted : Rule.parse compactSource = .ok compactRule := by decide +kernel
  exact ⟨accepted, adjacent_parenthesis, isSpacing_commentGap,
    ((parse_spaced accepted).2 adjacent_parenthesis isSpacing_commentGap).1 (by decide)⟩

/-- Behind the point there is none, not even for a space. So not every boundary of two tokens is
open to layout. -/
theorem parse_spaced_point :
    ¬ ∀ (source : String) (rule : Rule) (front first behind second gap : List Char),
      Rule.parse source = .ok rule → Adjacent source.toList front first behind second →
        IsSpacing gap →
          Rule.parse (String.ofList (front ++ (first ++ (gap ++ behind)))) = .ok rule := by
  intro always
  have accepted : Rule.parse compactSource = .ok compactRule := by decide +kernel
  have space : IsSpacing [' '] := ⟨⟨_, _, rfl, rfl⟩, .blank rfl .nil⟩
  have spaced := always _ _ _ _ _ _ _ accepted adjacent_point space
  have refused : (Rule.parse (String.ofList (compactFront ++ [')'] ++ (['.'] ++ ([' '] ++
      compactBehind))))).toOption = none := by decide +kernel
  rw [spaced] at refused
  cases refused

end Rule

end WidgetAudit
