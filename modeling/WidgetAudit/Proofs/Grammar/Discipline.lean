import WidgetAudit.Proofs.Source.Passage

/-!
# How the readers of the grammar behave

Three things are true of every reader of the grammar, and each of them is kept by every
combinator.

* What it reads is a passage: it takes the text apart as layout, quoted texts and single
  characters, and leaves a known number of parentheses open.
* What it accepts stays the same when text is added behind a closing brace that is still
  ahead. The same holds for what it declines, where a choice, an option or a repetition goes
  on after it.
* In front of a text that the scan for parentheses lets pass, it never asks for more
  parentheses than the limit.

`Orderly` collects them, with the number of open parentheses before and behind a reader. A
reader is `Lexical` if besides it leaves the parentheses and a closing brace ahead as they are.
-/

namespace WidgetAudit.Grammar.Reader

open Source (Passage brackets overflow?)

variable {α β : Type}

/-! ### A closing brace ahead -/

/-- One of the brackets of the text is a closing brace. -/
def BraceAhead (text : List Char) : Prop := ∃ bracket ∈ brackets text, bracket.head? = some '}'

/-- The brackets ahead are those passed and those ahead of the rest. -/
theorem BraceAhead.before {depth after : Nat} {input rest : List Char}
    {passed : List (List Char)} (ahead : BraceAhead rest)
    (passage : Passage depth input passed after rest) : BraceAhead input := by
  obtain ⟨bracket, member, isBrace⟩ := ahead
  exact ⟨bracket, passage.brackets_eq ▸ List.mem_append_right _ member, isBrace⟩

/-- A passage without brackets leaves the brace ahead. -/
theorem BraceAhead.behind {depth after : Nat} {input rest : List Char}
    (ahead : BraceAhead input) (passage : Passage depth input [] after rest) :
    BraceAhead rest := by
  obtain ⟨bracket, member, isBrace⟩ := ahead
  exact ⟨bracket, by rwa [passage.brackets_eq] at member, isBrace⟩

/-- A text with a brace ahead is not at its end. -/
theorem BraceAhead.ne_nil {text : List Char} (ahead : BraceAhead text) : text ≠ [] := by
  rintro rfl
  obtain ⟨bracket, member, _⟩ := ahead
  rw [brackets] at member
  cases member

/-- A brace that is ahead stands in the text. -/
theorem BraceAhead.mem {text : List Char} (ahead : BraceAhead text) : '}' ∈ text := by
  obtain ⟨bracket, member, isBrace⟩ := ahead
  exact (Source.brackets_isSuffix member).subset (List.mem_of_head? isBrace)

/-! ### Declining -/

/-- What the reader declines it declines also when text is added behind a brace ahead. -/
def Wary (reader : Reader α) : Prop :=
  ∀ ⦃input⦄, reader.Declines input → BraceAhead input → ∀ extra, reader.Declines (input ++ extra)

/-- The reader never declines: it accepts, or its refusal is final. -/
def Resolute (reader : Reader α) : Prop := ∀ input, ¬ reader.Declines input

/-- A reader that reads nothing never declines. -/
theorem resolute_pure (value : α) : (pure value : Reader α).Resolute := by
  rintro input ⟨refusal, refused, _⟩
  cases refused

/-- What has been committed to is not declined any more. -/
theorem resolute_commit (reader : Reader α) : reader.commit.Resolute :=
  fun _ => commit_declines

/-- An option accepts where its reader declines. -/
theorem resolute_optional (reader : Reader α) : (optional reader).Resolute := by
  rintro input ⟨refusal, refused, tentative⟩
  exact (optional_refuses refused).2 tentative

/-- A repetition ends where its reader declines, and accepts. -/
theorem resolute_many (reader : Reader α) (consumes : reader.Consumes) :
    (many reader consumes).Resolute := by
  rintro input ⟨refusal, refused, tentative⟩
  obtain ⟨_, _, _, _, notTentative⟩ := many_refuses refused
  exact notTentative tentative

/-- A sequence never declines if no part of it does. -/
theorem Resolute.bind {first : Reader α} {next : α → Reader β} (resolute : first.Resolute)
    (nextResolute : ∀ value, (next value).Resolute) : (first >>= next).Resolute := by
  intro input declines
  rcases bind_declines declines with atFirst | ⟨value, middle, _, atNext⟩
  · exact resolute input atFirst
  · exact nextResolute value middle atNext

/-- A remark makes no refusal tentative. -/
theorem Resolute.remarking {reader : Reader α} (resolute : reader.Resolute) (remark : Remark) :
    (Reader.remarking remark reader).Resolute :=
  fun input declines => resolute input (remarking_declines declines)

/-- What never declines has nothing to keep. -/
theorem Resolute.wary {reader : Reader α} (resolute : reader.Resolute) : reader.Wary :=
  fun _ declines => absurd declines (resolute _)

/-- A sequence declines only in its first part if the second one never declines. -/
theorem Wary.bind {first : Reader α} {next : α → Reader β} (wary : first.Wary)
    (resolute : ∀ value, (next value).Resolute) : (first >>= next).Wary := by
  intro input declines ahead extra
  rcases bind_declines declines with atFirst | ⟨value, middle, _, atNext⟩
  · exact (wary atFirst ahead extra).bind next
  · exact absurd atNext (resolute value middle)

/-- A choice declines what both alternatives decline. -/
theorem Wary.orElse {first second : Reader α} (wary : first.Wary) (secondWary : second.Wary) :
    (first <|> second).Wary := by
  intro input declines ahead extra
  obtain ⟨atFirst, atSecond⟩ := orElse_declines declines
  exact (wary atFirst ahead extra).orElse (secondWary atSecond ahead extra)

/-- A remark does not change what is declined. -/
theorem Wary.remarking {reader : Reader α} (wary : reader.Wary) (remark : Remark) :
    (Reader.remarking remark reader).Wary :=
  fun _ declines ahead extra => (wary (remarking_declines declines) ahead extra).remarking remark

/-! ### Accepting -/

/-- A reader that is entered with `before` parentheses open and leaves as many open as its
value says. -/
structure Orderly (limit before : Nat) (reader : Reader α) (after : α → Nat) : Prop where
  passes : ∀ {input value rest}, reader.read input = .ok (value, rest) →
    ∃ passed, Passage before input passed (after value) rest
  stable : ∀ {input value rest}, reader.read input = .ok (value, rest) → BraceAhead rest →
    ∀ extra, reader.read (input ++ extra) = .ok (value, rest ++ extra)
  shallow : ∀ {input}, before ≤ limit → overflow? limit before input = none →
    reader.Suffices input

namespace Orderly

variable {limit before : Nat}

/-- Reading nothing leaves everything as it is. -/
protected theorem pure (value : α) : (pure value : Reader α).Orderly limit before
    fun _ => before where
  passes accepted := by
    cases accepted
    exact ⟨[], .stay before _⟩
  stable accepted _ extra := by
    cases accepted
    rfl
  shallow _ _ refusal refused := by cases refused

/-- A sequence goes one passage after the other. What is ahead of the rest is ahead of both
parts, and the scan that passes the whole passes from the second part on. -/
protected theorem bind {first : Reader α} {next : α → Reader β} {middle : α → Nat}
    {after : β → Nat} (orderly : first.Orderly limit before middle)
    (nextOrderly : ∀ value, (next value).Orderly limit (middle value) after) :
    (first >>= next).Orderly limit before after where
  passes accepted := by
    obtain ⟨value, between, begun, later⟩ := bind_accepts accepted
    obtain ⟨passed, passage⟩ := orderly.passes begun
    obtain ⟨others, onward⟩ := (nextOrderly value).passes later
    exact ⟨passed ++ others, passage.append onward⟩
  stable accepted ahead extra := by
    obtain ⟨value, between, begun, later⟩ := bind_accepts accepted
    obtain ⟨others, onward⟩ := (nextOrderly value).passes later
    rw [read_bind (orderly.stable begun (ahead.before onward) extra)]
    exact (nextOrderly value).stable later ahead extra
  shallow within passes refusal refused := by
    rcases bind_refuses refused with atFirst | ⟨value, between, begun, atNext⟩
    · exact orderly.shallow within passes refusal atFirst
    · obtain ⟨passed, passage⟩ := orderly.passes begun
      obtain ⟨nextWithin, nextPasses⟩ := passage.overflow?_rest within passes
      exact (nextOrderly value).shallow nextWithin nextPasses refusal atNext

/-- A choice is orderly if both alternatives are. The first one has to decline what it has
declined also when text is added. -/
protected theorem orElse {first second : Reader α} {after : α → Nat}
    (orderly : first.Orderly limit before after) (wary : first.Wary)
    (secondOrderly : second.Orderly limit before after) :
    (first <|> second).Orderly limit before after where
  passes accepted := by
    rcases orElse_accepts accepted with found | ⟨_, found⟩
    · exact orderly.passes found
    · exact secondOrderly.passes found
  stable accepted ahead extra := by
    rcases orElse_accepts accepted with found | ⟨declines, found⟩
    · exact read_orElse (orderly.stable found ahead extra) _
    · obtain ⟨passed, passage⟩ := secondOrderly.passes found
      rw [(wary declines (ahead.before passage) extra).read_orElse]
      exact secondOrderly.stable found ahead extra
  shallow within passes refusal refused := by
    rcases orElse_refuses refused with atFirst | atSecond
    · exact orderly.shallow within passes refusal atFirst
    · exact secondOrderly.shallow within passes refusal atSecond

/-- An option leaves as many parentheses open as its reader, or as many as there were. -/
protected theorem optional {reader : Reader α} {after : α → Nat}
    (orderly : reader.Orderly limit before after) (wary : reader.Wary) :
    (optional reader).Orderly limit before fun choice => choice.elim before after where
  passes accepted := by
    rcases optional_accepts accepted with ⟨value, rfl, found⟩ | ⟨rfl, rfl, _⟩
    · exact orderly.passes found
    · exact ⟨[], .stay before _⟩
  stable accepted ahead extra := by
    rcases optional_accepts accepted with ⟨value, rfl, found⟩ | ⟨rfl, rfl, declines⟩
    · exact read_optional (orderly.stable found ahead extra)
    · exact (wary declines ahead extra).read_optional
  shallow within passes refusal refused :=
    orderly.shallow within passes refusal (optional_refuses refused).1

/-- An option of what leaves as many parentheses open as there were leaves them all the same. -/
theorem optional_level {reader : Reader α}
    (orderly : reader.Orderly limit before fun _ => before) (wary : reader.Wary) :
    (Reader.optional reader).Orderly limit before fun _ => before := by
  have same : (fun choice : Option α => choice.elim before fun _ => before) =
      fun _ => before := by
    funext choice
    cases choice <;> rfl
  exact same ▸ orderly.optional wary

/-- Committing changes only refusals, and never into one that asks for parentheses. -/
protected theorem commit {reader : Reader α} {after : α → Nat}
    (orderly : reader.Orderly limit before after) : reader.commit.Orderly limit before after where
  passes accepted := orderly.passes (commit_accepts accepted)
  stable accepted ahead extra :=
    read_commit (orderly.stable (commit_accepts accepted) ahead extra)
  shallow within passes refusal refused := by
    obtain ⟨own, ownRefused, severity⟩ := onRefusal_refuses refused
    rw [severity]
    split
    · decide
    · exact orderly.shallow within passes own ownRefused

/-- A remark changes refusals in nothing that counts here. -/
protected theorem remarking {reader : Reader α} {after : α → Nat}
    (orderly : reader.Orderly limit before after) (remark : Remark) :
    (Reader.remarking remark reader).Orderly limit before after where
  passes accepted := orderly.passes (remarking_accepts accepted)
  stable accepted ahead extra :=
    read_remarking (orderly.stable (remarking_accepts accepted) ahead extra) remark
  shallow within passes refusal refused := by
    obtain ⟨own, ownRefused, severity⟩ := onRefusal_refuses refused
    exact severity ▸ orderly.shallow within passes own ownRefused

/-- A check reads nothing, and refuses tentatively what does not pass it. -/
protected theorem checked {reader : Reader α} {after : Nat}
    (orderly : reader.Orderly limit before fun _ => after)
    (check : α → Except (Option Pattern.Fault) β) :
    (reader.checked check).Orderly limit before fun _ => after where
  passes accepted := by
    obtain ⟨value, found, _⟩ := checked_accepts accepted
    exact orderly.passes found
  stable accepted ahead extra := by
    obtain ⟨value, found, passes⟩ := checked_accepts accepted
    exact read_checked (orderly.stable found ahead extra) passes
  shallow within passes refusal refused := by
    rcases checked_refuses refused with own | ⟨tentative, _⟩
    · exact orderly.shallow within passes refusal own
    · simp [tentative]

/-- A row of parts that close what they open closes what it opens. -/
theorem row_passes {reader : Reader α} (orderly : reader.Orderly limit before fun _ => before)
    {input rest : List Char} {values : List α} (row : Row reader input values rest) :
    ∃ passed, Passage before input passed before rest := by
  induction row with
  | stay => exact ⟨[], .stay before _⟩
  | step found _ inductionHypothesis =>
    obtain ⟨passed, passage⟩ := orderly.passes found
    obtain ⟨others, onward⟩ := inductionHypothesis
    exact ⟨passed ++ others, passage.append onward⟩

/-- A repetition of parts that close what they open asks for no more parentheses than each of
them. -/
theorem shallow_many {reader : Reader α} (orderly : reader.Orderly limit before fun _ => before)
    (consumes : reader.Consumes) {input : List Char} (within : before ≤ limit)
    (passes : overflow? limit before input = none) : (many reader consumes).Suffices input := by
  intro refusal refused
  obtain ⟨values, place, row, atPlace, _⟩ := many_refuses refused
  obtain ⟨passed, passage⟩ := orderly.row_passes row
  exact orderly.shallow within (passage.overflow?_rest within passes).2 refusal atPlace

/-- A repetition is orderly if each part closes what it opens, and it ends where it did when
text is added. -/
protected theorem many {reader : Reader α} (orderly : reader.Orderly limit before fun _ => before)
    (wary : reader.Wary) (consumes : reader.Consumes) :
    (many reader consumes).Orderly limit before fun _ => before where
  passes accepted := orderly.row_passes (many_accepts accepted).1
  stable {input values rest} accepted ahead extra := by
    obtain ⟨row, declines⟩ := many_accepts accepted
    have ends := wary declines ahead extra
    refine Row.read_many ?_ consumes ends
    clear accepted declines ends
    induction row with
    | stay => exact .stay _
    | step found onward inductionHypothesis =>
      obtain ⟨others, passage⟩ := orderly.row_passes onward
      exact .step (orderly.stable found (ahead.before passage) extra) (inductionHypothesis ahead)
  shallow := orderly.shallow_many consumes

end Orderly

/-! ### Small parts -/

/-- A reader of a small part, which leaves as many parentheses open as there were, and a
closing brace ahead if there was one. -/
structure Lexical (reader : Reader α) : Prop where
  orderly : ∀ limit depth, reader.Orderly limit depth fun _ => depth
  keeps : ∀ {input value rest}, reader.read input = .ok (value, rest) → BraceAhead input →
    BraceAhead rest
  wary : reader.Wary

/-- Behind a small part the brace is still ahead, so a sequence may decline there as well. -/
theorem Lexical.wary_bind {first : Reader α} {next : α → Reader β} (lexical : first.Lexical)
    (nextWary : ∀ value, (next value).Wary) : (first >>= next).Wary := by
  intro input declines ahead extra
  rcases bind_declines declines with atFirst | ⟨value, middle, begun, atNext⟩
  · exact (lexical.wary atFirst ahead extra).bind next
  · have behind := lexical.keeps begun ahead
    exact declines_bind_next ((lexical.orderly 0 0).stable begun behind extra)
      (nextWary value atNext behind extra)

namespace Lexical

/-- Reading nothing is a small part. -/
protected theorem pure (value : α) : (pure value : Reader α).Lexical where
  orderly _ _ := .pure value
  keeps accepted ahead := by
    cases accepted
    exact ahead
  wary := (resolute_pure value).wary

/-- Small parts one behind the other make a small part. -/
protected theorem bind {first : Reader α} {next : α → Reader β} (lexical : first.Lexical)
    (nextLexical : ∀ value, (next value).Lexical) : (first >>= next).Lexical where
  orderly limit depth :=
    (lexical.orderly limit depth).bind fun value => (nextLexical value).orderly limit depth
  keeps accepted ahead := by
    obtain ⟨value, middle, begun, later⟩ := bind_accepts accepted
    exact (nextLexical value).keeps later (lexical.keeps begun ahead)
  wary := lexical.wary_bind fun value => (nextLexical value).wary

/-- A choice of small parts is one. -/
protected theorem orElse {first second : Reader α} (lexical : first.Lexical)
    (secondLexical : second.Lexical) : (first <|> second).Lexical where
  orderly limit depth :=
    (lexical.orderly limit depth).orElse lexical.wary (secondLexical.orderly limit depth)
  keeps accepted ahead := by
    rcases orElse_accepts accepted with found | ⟨_, found⟩
    · exact lexical.keeps found ahead
    · exact secondLexical.keeps found ahead
  wary := lexical.wary.orElse secondLexical.wary

/-- An optional small part is one. -/
protected theorem optional {reader : Reader α} (lexical : reader.Lexical) :
    (optional reader).Lexical where
  orderly limit depth := (lexical.orderly limit depth).optional_level lexical.wary
  keeps accepted ahead := by
    rcases optional_accepts accepted with ⟨value, _, found⟩ | ⟨_, rfl, _⟩
    · exact lexical.keeps found ahead
    · exact ahead
  wary := (resolute_optional reader).wary

/-- A small part that has been committed to is one. -/
protected theorem commit {reader : Reader α} (lexical : reader.Lexical) :
    reader.commit.Lexical where
  orderly limit depth := (lexical.orderly limit depth).commit
  keeps accepted ahead := lexical.keeps (commit_accepts accepted) ahead
  wary := (resolute_commit reader).wary

/-- A small part with a remark is one. -/
protected theorem remarking {reader : Reader α} (lexical : reader.Lexical) (remark : Remark) :
    (Reader.remarking remark reader).Lexical where
  orderly limit depth := (lexical.orderly limit depth).remarking remark
  keeps accepted ahead := lexical.keeps (remarking_accepts accepted) ahead
  wary := lexical.wary.remarking remark

/-- A small part whose value is checked is one. A value that does not pass is declined, and stays
declined because the same value is read when text is added. -/
protected theorem checked {reader : Reader α} (lexical : reader.Lexical)
    (check : α → Except (Option Pattern.Fault) β) : (reader.checked check).Lexical where
  orderly limit depth := (lexical.orderly limit depth).checked check
  keeps accepted ahead := by
    obtain ⟨value, found, _⟩ := checked_accepts accepted
    exact lexical.keeps found ahead
  wary := by
    rintro input ⟨refusal, refused, tentative⟩ ahead extra
    rcases checked_refuses refused with own | ⟨_, value, rest, fault, found, fails⟩
    · exact (lexical.wary ⟨refusal, own, tentative⟩ ahead extra).checked check
    · have stable := (lexical.orderly 0 0).stable found (lexical.keeps found ahead) extra
      refine ⟨⟨.tentative, input ++ extra, [], fault⟩, ?_, rfl⟩
      simp only [Reader.checked, stable, fails]

/-- Small parts in any number are one. -/
protected theorem many {reader : Reader α} (lexical : reader.Lexical)
    (consumes : reader.Consumes) : (many reader consumes).Lexical where
  orderly limit depth := (lexical.orderly limit depth).many lexical.wary consumes
  keeps accepted ahead := by
    have row := (many_accepts accepted).1
    clear accepted
    induction row with
    | stay => exact ahead
    | step found _ inductionHypothesis => exact inductionHypothesis (lexical.keeps found ahead)
  wary := (resolute_many reader consumes).wary

/-- Small parts up to a number of them are a small part. -/
protected theorem manyUpTo {reader : Reader α} (lexical : reader.Lexical) (limit : Nat) :
    (manyUpTo reader limit).Lexical := by
  induction limit with
  | zero => exact .pure []
  | succ limit inductionHypothesis =>
    refine lexical.optional.bind fun choice => ?_
    cases choice with
    | none => exact .pure []
    | some value => exact inductionHypothesis.bind fun _ => .pure _

end Lexical

/-! ### Readers that end with a closing brace -/

/-- An orderly reader that ends with a closing brace: nothing that is added behind what it has
read makes a difference to it. -/
structure Closing (limit before : Nat) (reader : Reader α) (after : α → Nat) : Prop
    extends reader.Orderly limit before after where
  closes : ∀ {input value rest}, reader.read input = .ok (value, rest) →
    BraceAhead input ∧ ∀ extra, reader.read (input ++ extra) = .ok (value, rest ++ extra)

namespace Closing

variable {limit before : Nat}

/-- What ends a sequence ends it for all that stands in front. -/
protected theorem bind {first : Reader α} {next : α → Reader β} {middle : α → Nat}
    {after : β → Nat} (orderly : first.Orderly limit before middle)
    (closing : ∀ value, (next value).Closing limit (middle value) after) :
    (first >>= next).Closing limit before after where
  toOrderly := orderly.bind fun value => (closing value).toOrderly
  closes accepted := by
    obtain ⟨value, between, begun, later⟩ := bind_accepts accepted
    obtain ⟨passed, passage⟩ := orderly.passes begun
    obtain ⟨ahead, unchanged⟩ := (closing value).closes later
    refine ⟨ahead.before passage, fun extra => ?_⟩
    rw [read_bind (orderly.stable begun ahead extra)]
    exact unchanged extra

/-- What is made of the value makes no difference to how a reader ends. -/
protected theorem map {reader : Reader α} {after : Nat}
    (closing : reader.Closing limit before fun _ => after) (result : α → β) :
    (reader >>= fun value => pure (result value)).Closing limit before fun _ => after where
  toOrderly := closing.toOrderly.bind fun _ => .pure _
  closes accepted := by
    obtain ⟨own, between, begun, given⟩ := bind_accepts accepted
    cases given
    obtain ⟨ahead, unchanged⟩ := closing.closes begun
    exact ⟨ahead, fun extra => read_map (unchanged extra) result⟩

/-- Committing makes no difference to how a reader ends. -/
protected theorem commit {reader : Reader α} {after : α → Nat}
    (closing : reader.Closing limit before after) : reader.commit.Closing limit before after where
  toOrderly := closing.toOrderly.commit
  closes accepted := by
    obtain ⟨ahead, unchanged⟩ := closing.closes (commit_accepts accepted)
    exact ⟨ahead, fun extra => read_commit (unchanged extra)⟩

/-- A remark makes no difference to how a reader ends. -/
protected theorem remarking {reader : Reader α} {after : α → Nat}
    (closing : reader.Closing limit before after) (remark : Remark) :
    (Reader.remarking remark reader).Closing limit before after where
  toOrderly := closing.toOrderly.remarking remark
  closes accepted := by
    obtain ⟨ahead, unchanged⟩ := closing.closes (remarking_accepts accepted)
    exact ⟨ahead, fun extra => read_remarking (unchanged extra) remark⟩

/-- A row of parts that end with closing braces is the same row whatever follows it. -/
theorem row {reader : Reader α} (closing : reader.Closing limit before fun _ => before)
    {input place : List Char} {values : List α} (row : Row reader input values place)
    (extra : List Char) : Row reader (input ++ extra) values (place ++ extra) := by
  induction row with
  | stay => exact .stay _
  | step found _ inductionHypothesis =>
    exact .step ((closing.closes found).2 extra) inductionHypothesis

end Closing

end WidgetAudit.Grammar.Reader
