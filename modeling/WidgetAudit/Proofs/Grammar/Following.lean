import WidgetAudit.Grammar.Expression
import WidgetAudit.Proofs.Expr.Rendering

/-!
# What may follow an expression

The operators of a level are read by one reader, and an expression that is read at a level
ends in front of a closing parenthesis, of an operator that binds less tightly, or of the
next clause of a rule. `Follows level` says that a text is of this kind. It is all that the
proofs about the levels have to know about the rest of a rule: in front of such a text no
name and no number goes on, a property has no suffix, and neither the level nor a tighter one
finds another operator.
-/

namespace WidgetAudit.Grammar

open Reader

/-! ### The operators of a level -/

/-- The reader of a single operator. -/
def operatorReader (operator : BinaryOperator) : Reader BinaryOperator :=
  match operator with
  | .contains => wordOf .contains
  | .matching => wordOf .matching
  | other => signOf other

/-- The reader of the operators of a level. -/
def operatorAt (level : Nat) : Reader BinaryOperator :=
  match level with
  | 0 => disjunctionSign
  | 1 => conjunctionSign
  | 2 => equalitySign
  | 3 => orderSign
  | 4 => sumSign
  | _ => productSign

/-- An operator of any level reads something. -/
theorem consumes_operatorAt (level : Nat) : (operatorAt level).Consumes := by
  unfold operatorAt
  split
  · exact consumes_signOf _
  · exact consumes_signOf _
  · exact consumes_equalitySign
  · exact consumes_orderSign
  · exact consumes_sumSign
  · exact consumes_productSign

/-- An operator with a space behind it is read at its level. The order of the alternatives
matters here: of two signs one of which begins with the other, the longer one is tried
first. -/
theorem read_operatorAt (joint : BinaryOperator) (later : List Char) :
    (operatorAt joint.tightness).read (joint.sign.toList ++ ' ' :: later) =
      .ok (joint, ' ' :: later) := by
  cases joint <;> rfl

/-- No operator of a level is read where none of them stands. -/
theorem declines_operatorAt {level : Nat} (inTable : level < prefixTightness)
    {input : List Char} (noneStands : ∀ operator : BinaryOperator, operator.tightness = level →
      (operatorReader operator).Declines input) : (operatorAt level).Declines input := by
  have levels : level = 0 ∨ level = 1 ∨ level = 2 ∨ level = 3 ∨ level = 4 ∨ level = 5 := by
    unfold prefixTightness at inTable
    omega
  rcases levels with rfl | rfl | rfl | rfl | rfl | rfl
  · exact noneStands .or rfl
  · exact noneStands .and rfl
  · exact (noneStands .equal rfl).orElse <| (noneStands .notEqual rfl).orElse <|
      (noneStands .looselyEqual rfl).orElse <| (noneStands .contains rfl).orElse
        (noneStands .matching rfl)
  · exact (noneStands .lessOrEqual rfl).orElse <| (noneStands .less rfl).orElse <|
      (noneStands .greaterOrEqual rfl).orElse (noneStands .greater rfl)
  · exact (noneStands .add rfl).orElse (noneStands .subtract rfl)
  · exact (noneStands .multiply rfl).orElse (noneStands .divide rfl)

/-! ### Ends of expressions -/

/-- A text without layout in front of which an expression of the level ends. -/
inductive Stops (level : Nat) : List Char → Prop
  | closing (later : List Char) : Stops level (')' :: later)
  | operator {joint : BinaryOperator} (looser : joint.tightness < level) (later : List Char) :
      Stops level (joint.sign.toList ++ ' ' :: later)
  | clause {word : String} (begins : word = "ensure" ∨ word = "report") (later : List Char) :
      Stops level (word.toList ++ ':' :: later)

/-- A text that may follow an expression of the level. A name or a number would go on in its
first character, so this is a blank, or else the text begins with a parenthesis. -/
structure Follows (level : Nat) (following : List Char) : Prop where
  endsName : EndsName following
  noPoint : Avoids (· == '.') following
  skipped : ∃ rest, layout.read following = .ok ((), rest) ∧ Stops level rest

/-- What ends an expression ends tighter ones as well. -/
theorem Stops.mono {level tighter : Nat} (le : level ≤ tighter) {rest : List Char}
    (stops : Stops level rest) : Stops tighter rest := by
  cases stops with
  | closing later => exact .closing later
  | operator looser later => exact .operator (Nat.lt_of_lt_of_le looser le) later
  | clause begins later => exact .clause begins later

/-- What may follow an expression may follow tighter ones as well. -/
theorem Follows.mono {level tighter : Nat} (le : level ≤ tighter) {following : List Char}
    (follows : Follows level following) : Follows tighter following := by
  obtain ⟨rest, read, stops⟩ := follows.skipped
  exact ⟨follows.endsName, follows.noPoint, rest, read, stops.mono le⟩

/-- The end of an expression is solid. -/
theorem Stops.isSolid {level : Nat} {rest : List Char} (stops : Stops level rest) :
    IsSolid rest := by
  cases stops with
  | closing later => exact isSolid_cons rfl later
  | @operator joint looser later =>
    by_cases slash : joint = .divide
    · subst slash
      -- A single slash is an operator; only two of them begin a comment.
      intro char following same
      cases same
      exact ⟨by decide, by decide, fun _ tail doubled => by cases doubled⟩
    · cases joint <;> first
        | exact absurd rfl slash
        | exact isSolid_cons rfl _
  | clause begins later =>
    rcases begins with rfl | rfl <;> exact isSolid_cons rfl _

/-- The end of an expression is no question behind a point and opens no parenthesis. -/
theorem Stops.head {level : Nat} {rest : List Char} (stops : Stops level rest) {wanted : Char}
    (either : wanted = '.' ∨ wanted = '(') : Avoids (· == wanted) rest := by
  cases stops with
  | closing later => rcases either with rfl | rfl <;> exact avoids_cons rfl _
  | @operator joint looser later =>
    rcases either with rfl | rfl <;> cases joint <;> exact avoids_cons rfl _
  | clause begins later =>
    rcases either with rfl | rfl <;> rcases begins with rfl | rfl <;> exact avoids_cons rfl _

/-- A space and a word end a name. -/
theorem endsName_space (later : List Char) : EndsName (' ' :: later) :=
  endsName_cons (by decide) later

/-- The word of a clause ends where its colon stands. -/
theorem endsName_colon (later : List Char) : EndsName (':' :: later) :=
  endsName_cons (by decide) later

/-- Where an expression ends, a word can stand only if it is that of a looser operator or of
a clause. -/
theorem Stops.declines_keyword {level : Nat} {rest : List Char} (stops : Stops level rest)
    {word : String}
    (noOperator : ∀ joint : BinaryOperator, joint.tightness < level → joint.sign ≠ word)
    (noClause : "ensure" ≠ word ∧ "report" ≠ word) : (keyword word).Declines rest := by
  cases stops with
  | closing later => exact Grammar.declines_keyword (avoids_cons rfl later)
  | @operator joint looser later =>
    by_cases isWord : isIdentifier joint.sign = true
    · exact declines_keyword_of_name (noOperator joint looser) isWord (endsName_space later)
    · refine Grammar.declines_keyword ?_
      cases joint <;> first
        | exact absurd (by decide) isWord
        | exact avoids_cons rfl _
  | clause begins later =>
    rcases begins with rfl | rfl
    · exact declines_keyword_of_name noClause.1 (by decide) (endsName_colon later)
    · exact declines_keyword_of_name noClause.2 (by decide) (endsName_colon later)

/-- Where an expression ends, no sign of its level or of a tighter one stands: no sign is the
beginning of a looser one. -/
theorem Stops.sign_differs {level : Nat} {rest : List Char} (stops : Stops level rest)
    {operator : BinaryOperator} (tight : level ≤ operator.tightness) :
    operator.sign.toList.isPrefixOf rest = false := by
  cases stops with
  | closing later => cases operator <;> rfl
  | @operator joint looser later =>
    have tighter : joint.tightness < operator.tightness := Nat.lt_of_lt_of_le looser tight
    clear looser tight
    cases operator <;> cases joint <;> first
      | rfl
      | exact absurd tighter (by decide)
  | clause begins later => rcases begins with rfl | rfl <;> cases operator <;> rfl

/-- Where an expression ends, no operator of its level or of a tighter one is read. -/
theorem Stops.declines_operatorReader {level : Nat} {rest : List Char}
    (stops : Stops level rest) {operator : BinaryOperator} (tight : level ≤ operator.tightness) :
    (operatorReader operator).Declines rest := by
  have differs : ∀ joint : BinaryOperator, joint.tightness < level →
      joint.sign ≠ operator.sign := by
    intro joint looser same
    have tighter : joint.tightness < operator.tightness := Nat.lt_of_lt_of_le looser tight
    have equal : joint = operator := BinaryOperator.sign_injective same
    exact absurd tighter (equal ▸ Nat.lt_irrefl _)
  unfold operatorReader
  split
  · exact (stops.declines_keyword differs (by decide)).bind _
  · exact (stops.declines_keyword differs (by decide)).bind _
  · exact (declines_text (stops.sign_differs tight)).bind _

/-! ### What declines behind an expression -/

section Consequences

variable {level : Nat} {following : List Char}

/-- A number ends in front of what follows an expression. -/
theorem Follows.endsNumber (follows : Follows level following) : EndsNumber following :=
  ⟨follows.endsName.narrow fun _ => isNamePart_of_isDigit, follows.noPoint⟩

/-- Neither a point nor an opening parenthesis follows an expression. -/
theorem Follows.declines_sign (follows : Follows level following) {wanted : Char}
    (either : wanted = '.' ∨ wanted = '(') : (sign wanted).Declines following := by
  obtain ⟨rest, read, stops⟩ := follows.skipped
  exact Grammar.declines_sign read (stops.head either)

/-- No suffix of a property follows an expression. -/
theorem Follows.declines_propertySuffix (follows : Follows level following) :
    propertySuffix.Declines following := by
  obtain ⟨rest, read, stops⟩ := follows.skipped
  have noCast : (keyword "as").Declines rest :=
    stops.declines_keyword (fun joint _ => by cases joint <;> decide) (by decide)
  exact ((follows.declines_sign (.inl rfl)).bind _).orElse
    (declines_bind_next read (noCast.bind _))

/-- No operator of a level follows an expression of that level. -/
theorem Follows.declines_operatorAt (follows : Follows level following)
    (inTable : level < prefixTightness) {β : Type} (next : BinaryOperator → Reader β) :
    (layout >>= fun _ => operatorAt level >>= next).Declines following := by
  obtain ⟨rest, read, stops⟩ := follows.skipped
  have noOperator : (operatorAt level).Declines rest :=
    Grammar.declines_operatorAt inTable fun operator atLevel =>
      stops.declines_operatorReader (Nat.le_of_eq atLevel.symm)
  exact declines_bind_next read (noOperator.bind next)

end Consequences

/-! ### Texts that may follow -/

/-- A closing parenthesis may follow every expression. -/
theorem follows_closing (level : Nat) (later : List Char) : Follows level (')' :: later) := by
  have solid : IsSolid (')' :: later) := isSolid_cons rfl later
  exact ⟨avoids_cons rfl later, avoids_cons rfl later, _, read_layout_solid solid, .closing later⟩

/-- An operator between spaces may follow tighter expressions. -/
theorem follows_operator {level : Nat} {joint : BinaryOperator}
    (looser : joint.tightness < level) (later : List Char) :
    Follows level (' ' :: (joint.sign.toList ++ ' ' :: later)) := by
  have stops : Stops level (joint.sign.toList ++ ' ' :: later) := .operator looser later
  exact ⟨avoids_cons rfl _, avoids_cons rfl _, _, read_layout_space stops.isSolid, stops⟩

/-- The next clause, behind at least one blank, may follow every expression. -/
theorem follows_clause (level : Nat) {gap : List Char} (nonempty : gap ≠ [])
    (blank : IsGap gap) {word : String}
    (begins : word = "ensure" ∨ word = "report") (later : List Char) :
    Follows level (gap ++ (word.toList ++ ':' :: later)) := by
  have stops : Stops level (word.toList ++ ':' :: later) := .clause begins later
  have skipped := read_layout blank stops.isSolid
  cases gap with
  | nil => exact absurd rfl nonempty
  | cons first others =>
    have isBlank : Text.isBlank first = true := List.all_eq_true.mp blank _ List.mem_cons_self
    have noPoint : Avoids (· == '.') (first :: (others ++ (word.toList ++ ':' :: later))) :=
      avoids_other isBlank (by decide) _
    exact ⟨endsName_cons (isNamePart_of_isBlank isBlank) _, noPoint, _, skipped, stops⟩

end WidgetAudit.Grammar
