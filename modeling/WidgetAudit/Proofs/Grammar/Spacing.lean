import WidgetAudit.Proofs.Grammar.Boundary

/-!
# What readers make of layout between two tokens

`Carries` is the law that the readers of the grammar keep when layout is put between two tokens: a
reader accepts the wider text with the same value, and declines it where it declines the other one.
It has a relation of the two texts in front of the reader and one behind it, and is closed under
every combinator. If the boundary is torn, the wider text may be refused for good instead; that
refusal then passes through whatever reads on, since no combinator catches it.

A token is carried from `Near` to `Loose`, and layout from `Loose` to `Near`. So a reader that
looks for layout in front of every token is carried from `Loose` to `Loose`, and `Spaced` says
so. The question whether a property is resolved is the only place where a token is read from what is
not `Near`.
-/

namespace WidgetAudit.Grammar

open Reader

variable {α β : Type} {boundary : Boundary}

/-! ### The law -/

/-- The boundary is torn, and for that the reader refuses the wider text for good. -/
def Boundary.Spoils (boundary : Boundary) (reader : Reader α) (wide : List Char) : Prop :=
  boundary.Torn ∧ ∃ refusal, reader.read wide = .error refusal ∧ refusal.severity ≠ .tentative

/-- A reader makes the same of both texts. -/
structure Boundary.Carries (boundary : Boundary) (start : List Char → List Char → Prop)
    (reader : Reader α) (finish : α → List Char → List Char → Prop) : Prop where
  accepts : ∀ {tight wide value rest}, start tight wide →
    reader.read tight = .ok (value, rest) →
      (∃ wideRest, reader.read wide = .ok (value, wideRest) ∧ finish value rest wideRest) ∨
        boundary.Spoils reader wide
  declines : ∀ {tight wide}, start tight wide → reader.Declines tight →
    reader.Declines wide ∨ boundary.Spoils reader wide

/-- A reader makes the same of both texts and leaves them between tokens. -/
def Boundary.Spaced (boundary : Boundary) (reader : Reader α) : Prop :=
  boundary.Carries boundary.Loose reader fun _ => boundary.Loose

/-! ### Texts that are refused for good

No combinator catches a final refusal, so what has spoilt a text spoils it for every reader that
comes to that place. -/

namespace Boundary.Spoils

variable {wide middle : List Char}

/-- What spoils the first part of a sequence spoils the sequence. -/
protected theorem bind {first : Reader α} (spoils : boundary.Spoils first wide)
    (next : α → Reader β) : boundary.Spoils (first >>= next) wide := by
  obtain ⟨torn, refusal, refused, final⟩ := spoils
  exact ⟨torn, refusal, refuses_bind refused next, final⟩

/-- What spoils its second part spoils it as well, where the first part accepts. -/
theorem bind_next {first : Reader α} {next : α → Reader β} {value : α}
    (read : first.read wide = .ok (value, middle)) (spoils : boundary.Spoils (next value) middle) :
    boundary.Spoils (first >>= next) wide := by
  obtain ⟨torn, refusal, refused, final⟩ := spoils
  exact ⟨torn, refusal, (read_bind read next).trans refused, final⟩

/-- What spoils the first alternative spoils the choice: the second one is not tried. -/
protected theorem orElse {first : Reader α} (spoils : boundary.Spoils first wide)
    (second : Reader α) : boundary.Spoils (first <|> second) wide := by
  obtain ⟨torn, refusal, refused, final⟩ := spoils
  exact ⟨torn, refusal, refuses_orElse refused final second, final⟩

/-- What spoils the second alternative does, where the first one declines. -/
theorem orElse_second {first second : Reader α} (declines : first.Declines wide)
    (spoils : boundary.Spoils second wide) : boundary.Spoils (first <|> second) wide := by
  obtain ⟨torn, refusal, refused, final⟩ := spoils
  exact ⟨torn, refusal, (declines.read_orElse second).trans refused, final⟩

/-- A spoilt text is not taken for a missing option. -/
protected theorem optional {reader : Reader α} (spoils : boundary.Spoils reader wide) :
    boundary.Spoils (optional reader) wide := by
  obtain ⟨torn, refusal, refused, final⟩ := spoils
  exact ⟨torn, refusal, refuses_optional refused final, final⟩

/-- It stays spoilt if what is done to refusals makes none of them tentative. -/
protected theorem onRefusal {reader : Reader α} (spoils : boundary.Spoils reader wide)
    {severity : Severity → Severity}
    (keeps : ∀ own, own ≠ .tentative → severity own ≠ .tentative)
    (remarks : List Remark → List Remark) :
    boundary.Spoils (reader.onRefusal severity remarks) wide := by
  obtain ⟨torn, refusal, refused, final⟩ := spoils
  refine ⟨torn, ⟨severity refusal.severity, refusal.rest, remarks refusal.remarks,
    refusal.fault⟩, ?_, keeps _ final⟩
  simp only [Reader.onRefusal, refused]

/-- It never comes to a check. -/
protected theorem checked {reader : Reader α} (spoils : boundary.Spoils reader wide)
    (check : α → Except (Option Pattern.Fault) β) :
    boundary.Spoils (reader.checked check) wide := by
  obtain ⟨torn, refusal, refused, final⟩ := spoils
  exact ⟨torn, refusal, by simp only [Reader.checked, refused], final⟩

/-- A repetition is spoilt where the reader is spoilt behind the row that it has read. -/
protected theorem many {reader : Reader α} {before : List α}
    (row : Row reader wide before middle) (spoils : boundary.Spoils reader middle)
    (consumes : reader.Consumes) : boundary.Spoils (many reader consumes) wide := by
  obtain ⟨torn, refusal, refused, final⟩ := spoils
  refine ⟨torn, refusal, ?_, final⟩
  rw [row.read_many_eq consumes, refuses_many consumes refused final]

end Boundary.Spoils

/-! ### The law of the combinators -/

namespace Boundary.Carries

variable {start : List Char → List Char → Prop} {finish : α → List Char → List Char → Prop}

/-- The law holds of fewer texts in front and says less behind. -/
theorem mono {reader : Reader α} (carries : boundary.Carries start reader finish)
    {narrower : List Char → List Char → Prop} {wider : α → List Char → List Char → Prop}
    (atStart : ∀ {tight wide}, narrower tight wide → start tight wide)
    (atFinish : ∀ {value tight wide}, finish value tight wide → wider value tight wide) :
    boundary.Carries narrower reader wider where
  accepts related accepted := by
    obtain ⟨wideRest, read, behind⟩ | spoils := carries.accepts (atStart related) accepted
    · exact .inl ⟨wideRest, read, atFinish behind⟩
    · exact .inr spoils
  declines related := carries.declines (atStart related)

/-- Reading nothing leaves the two texts as they are. -/
protected theorem pure {relation : List Char → List Char → Prop} (value : α) :
    boundary.Carries relation (pure value : Reader α) fun _ => relation where
  accepts related accepted := by
    cases accepted
    exact .inl ⟨_, rfl, related⟩
  declines _ declined := by
    obtain ⟨_, refused, _⟩ := declined
    cases refused

/-- Where the second part begins the texts are related as the first part has left them. -/
protected theorem bind {first : Reader α} {next : α → Reader β}
    {final : β → List Char → List Char → Prop} (carries : boundary.Carries start first finish)
    (nextCarries : ∀ value, boundary.Carries (finish value) (next value) final) :
    boundary.Carries start (first >>= next) final where
  accepts related accepted := by
    obtain ⟨value, middle, begun, later⟩ := bind_accepts accepted
    obtain ⟨wideMiddle, read, between⟩ | spoils := carries.accepts related begun
    · obtain ⟨wideRest, laterRead, behind⟩ | spoils := (nextCarries value).accepts between later
      · exact .inl ⟨wideRest, (read_bind read next).trans laterRead, behind⟩
      · exact .inr (.bind_next read spoils)
    · exact .inr (spoils.bind next)
  declines related declined := by
    obtain atFirst | ⟨value, middle, begun, atNext⟩ := bind_declines declined
    · obtain declines | spoils := carries.declines related atFirst
      · exact .inl (declines.bind next)
      · exact .inr (spoils.bind next)
    · obtain ⟨wideMiddle, read, between⟩ | spoils := carries.accepts related begun
      · obtain declines | spoils := (nextCarries value).declines between atNext
        · exact .inl (declines_bind_next read declines)
        · exact .inr (.bind_next read spoils)
      · exact .inr (spoils.bind next)

/-- A choice keeps the law if both alternatives do. -/
protected theorem orElse {first second : Reader α} (carries : boundary.Carries start first finish)
    (secondCarries : boundary.Carries start second finish) :
    boundary.Carries start (first <|> second) finish where
  accepts related accepted := by
    obtain found | ⟨declined, found⟩ := orElse_accepts accepted
    · obtain ⟨wideRest, read, behind⟩ | spoils := carries.accepts related found
      · exact .inl ⟨wideRest, read_orElse read second, behind⟩
      · exact .inr (spoils.orElse second)
    · obtain declines | spoils := carries.declines related declined
      · obtain ⟨wideRest, read, behind⟩ | spoils := secondCarries.accepts related found
        · exact .inl ⟨wideRest, (declines.read_orElse second).trans read, behind⟩
        · exact .inr (.orElse_second declines spoils)
      · exact .inr (spoils.orElse second)
  declines related declined := by
    obtain ⟨atFirst, atSecond⟩ := orElse_declines declined
    obtain declines | spoils := carries.declines related atFirst
    · obtain secondDeclines | spoils := secondCarries.declines related atSecond
      · exact .inl (declines.orElse secondDeclines)
      · exact .inr (.orElse_second declines spoils)
    · exact .inr (spoils.orElse second)

/-- An option leaves the texts as its reader does, or as they were. -/
protected theorem optional {reader : Reader α} (carries : boundary.Carries start reader finish) :
    boundary.Carries start (optional reader) fun choice => choice.elim start finish where
  accepts related accepted := by
    obtain ⟨value, rfl, found⟩ | ⟨rfl, rfl, declined⟩ := optional_accepts accepted
    · obtain ⟨wideRest, read, behind⟩ | spoils := carries.accepts related found
      · exact .inl ⟨wideRest, read_optional read, behind⟩
      · exact .inr spoils.optional
    · obtain declines | spoils := carries.declines related declined
      · exact .inl ⟨_, declines.read_optional, related⟩
      · exact .inr spoils.optional
  declines _ declined := absurd declined (resolute_optional reader _)

/-- An option of what leaves the texts related as they were does so as well. -/
theorem optional_same {reader : Reader α} (carries : boundary.Carries start reader fun _ => start) :
    boundary.Carries start (Reader.optional reader) fun _ => start :=
  carries.optional.mono id fun {choice _ _} behind => by
    cases choice <;> exact behind

/-- What is done to a refusal may not turn a final one into a tentative one. -/
theorem onRefusal {reader : Reader α} (carries : boundary.Carries start reader finish)
    {severity : Severity → Severity}
    (keeps : ∀ own, own ≠ .tentative → severity own ≠ .tentative)
    (remarks : List Remark → List Remark) :
    boundary.Carries start (reader.onRefusal severity remarks) finish where
  accepts related accepted := by
    obtain ⟨wideRest, read, behind⟩ | spoils :=
      carries.accepts related (onRefusal_accepts accepted)
    · exact .inl ⟨wideRest, read_onRefusal read _ _, behind⟩
    · exact .inr (spoils.onRefusal keeps remarks)
  declines related declined := by
    obtain ⟨refusal, refused, tentative⟩ := declined
    obtain ⟨own, ownRefused, same⟩ := onRefusal_refuses refused
    have ownTentative : own.severity = .tentative := by
      by_contra final
      exact keeps own.severity final (same.symm.trans tentative)
    obtain ⟨other, otherRefused, otherTentative⟩ | spoils :=
      carries.declines related ⟨own, ownRefused, ownTentative⟩
    · refine .inl ⟨⟨severity other.severity, other.rest, remarks other.remarks, other.fault⟩,
        ?_, ?_⟩
      · simp only [Reader.onRefusal, otherRefused]
      · rw [otherTentative, ← ownTentative, ← same, tentative, ownTentative]
    · exact .inr (spoils.onRefusal keeps remarks)

/-- Committing keeps the law. -/
protected theorem commit {reader : Reader α} (carries : boundary.Carries start reader finish) :
    boundary.Carries start reader.commit finish :=
  carries.onRefusal (fun own final => by rwa [if_neg final]) _

/-- A remark keeps the law. -/
protected theorem remarking {reader : Reader α} (carries : boundary.Carries start reader finish)
    (remark : Remark) : boundary.Carries start (remarking remark reader) finish :=
  carries.onRefusal (fun _ => id) _

/-- A check keeps the law, because it gets the same value from both texts. -/
protected theorem checked {reader : Reader α} {relation : List Char → List Char → Prop}
    (carries : boundary.Carries start reader fun _ => relation)
    (check : α → Except (Option Pattern.Fault) β) :
    boundary.Carries start (reader.checked check) fun _ => relation where
  accepts related accepted := by
    obtain ⟨value, found, passes⟩ := checked_accepts accepted
    obtain ⟨wideRest, read, behind⟩ | spoils := carries.accepts related found
    · exact .inl ⟨wideRest, read_checked read passes, behind⟩
    · exact .inr (spoils.checked check)
  declines {_ wide} related declined := by
    obtain ⟨refusal, refused, tentative⟩ := declined
    obtain own | ⟨_, value, rest, fault, found, fails⟩ := checked_refuses refused
    · obtain declines | spoils := carries.declines related ⟨refusal, own, tentative⟩
      · exact .inl (declines.checked check)
      · exact .inr (spoils.checked check)
    · obtain ⟨wideRest, read, _⟩ | spoils := carries.accepts related found
      · exact .inl ⟨⟨.tentative, wide, [], fault⟩, by simp only [Reader.checked, read, fails], rfl⟩
      · exact .inr (spoils.checked check)

/-- Behind a row the texts are related as they were in front of it. -/
theorem row {reader : Reader α} {relation : List Char → List Char → Prop}
    (carries : boundary.Carries relation reader fun _ => relation) {tight rest : List Char}
    {values : List α} (row : Row reader tight values rest) {wide : List Char}
    (related : relation tight wide) :
    (∃ wideRest, Row reader wide values wideRest ∧ relation rest wideRest) ∨
      ∃ before place, Row reader wide before place ∧ boundary.Spoils reader place := by
  induction row generalizing wide with
  | stay => exact .inl ⟨wide, .stay wide, related⟩
  | step found _ inductionHypothesis =>
    obtain ⟨middle, read, between⟩ | spoils := carries.accepts related found
    · obtain ⟨wideRest, onward, behind⟩ | ⟨before, place, onward, spoils⟩ :=
        inductionHypothesis between
      · exact .inl ⟨wideRest, .step read onward, behind⟩
      · exact .inr ⟨_, place, .step read onward, spoils⟩
    · exact .inr ⟨[], wide, .stay wide, spoils⟩

/-- A repetition keeps the law if its parts lead back to where they began. -/
protected theorem many {reader : Reader α} {relation : List Char → List Char → Prop}
    (carries : boundary.Carries relation reader fun _ => relation) (consumes : reader.Consumes) :
    boundary.Carries relation (many reader consumes) fun _ => relation where
  accepts related accepted := by
    obtain ⟨row, declined⟩ := many_accepts accepted
    obtain ⟨wideRest, wideRow, behind⟩ | ⟨before, place, wideRow, spoils⟩ :=
      carries.row row related
    · obtain declines | spoils := carries.declines behind declined
      · exact .inl ⟨wideRest, wideRow.read_many consumes declines, behind⟩
      · exact .inr (.many wideRow spoils consumes)
    · exact .inr (.many wideRow spoils consumes)
  declines _ declined := absurd declined (resolute_many reader consumes _)

/-- A repetition up to a number of parts keeps the law if its parts lead back to where they began.
-/
protected theorem manyUpTo {reader : Reader α} {relation : List Char → List Char → Prop}
    (carries : boundary.Carries relation reader fun _ => relation) (limit : Nat) :
    boundary.Carries relation (manyUpTo reader limit) fun _ => relation := by
  induction limit with
  | zero => exact .pure []
  | succ limit inductionHypothesis =>
    refine carries.optional_same.bind fun choice => ?_
    cases choice with
    | none => exact .pure []
    | some value => exact inductionHypothesis.bind fun _ => .pure _

end Boundary.Carries

end WidgetAudit.Grammar
