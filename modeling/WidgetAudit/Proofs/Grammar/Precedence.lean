import WidgetAudit.Proofs.Grammar.Levels
import WidgetAudit.Proofs.Grammar.Operands

/-!
# Precedence and associativity

A grouped rendering is read as the expression that it stands for. `Reads` collects what the
induction on renderings has to carry: at every level up to its own, a rendering is read as
its expression, which the level then goes on from; and behind a row of signs it gives its own
leading signs to the row.

That a level goes on from the rendering, instead of ending behind it, is what associativity
needs: the left operand of an operator is read at the operator's own level, with the operator
still to come. The right operand is read at the next level, which stops in front of every
operator that may follow.
-/

namespace WidgetAudit.Grammar

open Reader

/-! ### Signs in front -/

/-- A row of signs ends in front of an operand. -/
theorem declines_unarySign {gap input : List Char}
    (blank : IsGap gap)
    (opens : ∃ first later, input = first :: later ∧ opensOperand first = true) :
    (layout >>= fun _ => unarySign).Declines (gap ++ input) := by
  obtain ⟨first, later, rfl, isOpening⟩ := opens
  have notNegated : (char '!').Declines (first :: later) :=
    declines_char (avoids_other isOpening (by decide) later)
  have notNegative : (char '-').Declines (first :: later) :=
    declines_char (avoids_other isOpening (by decide) later)
  exact declines_bind_next (read_layout blank (isSolid_of_opensOperand isOpening later))
    ((notNegated.bind _).orElse (notNegative.bind _))

/-- One sign is read behind blanks. -/
theorem read_unarySign {gap : List Char} (blank : IsGap gap)
    (operator : UnaryOperator) (later : List Char) :
    (layout >>= fun _ => unarySign).read (gap ++ operator.sign :: later) =
      .ok (operator, later) := by
  have solid : IsSolid (operator.sign :: later) := by
    cases operator <;> exact isSolid_cons rfl _
  rw [read_bind (read_layout blank solid)]
  cases operator <;> rfl

/-! ### The first character of a rendering -/

variable [RegexEngine]

/-- A rendering begins with an operand or with a sign in front of one. -/
theorem rendering_opens {rendering : Rendering} (normal : rendering.expr.isNormal = true) :
    ∃ first later, rendering.text = first :: later ∧
      (opensOperand first = true ∨ ∃ operator : UnaryOperator, first = operator.sign) := by
  induction rendering with
  | leaf form =>
    obtain ⟨first, later, same, opens⟩ := leaf_opens normal
    exact ⟨first, later, same, .inl opens⟩
  | signed operator spaced operand _ => exact ⟨_, _, rfl, .inr ⟨operator, rfl⟩⟩
  | joined operator left right leftHypothesis _ =>
    obtain ⟨first, later, same, opens⟩ := leftHypothesis (Expr.operands_normal normal).1
    exact ⟨first, _, by rw [Rendering.text, same, List.cons_append], opens⟩
  | quantified relation quantifier body _ =>
    cases relation <;> exact ⟨_, _, rfl, .inl (by decide)⟩
  | enclosed inner _ => exact ⟨_, _, rfl, .inl (by decide)⟩

/-- What needs no parentheses begins with an operand, not with a sign. -/
theorem primary_opens {rendering : Rendering} (normal : rendering.expr.isNormal = true)
    (tight : rendering.tightness = primaryTightness) :
    ∃ first later, rendering.text = first :: later ∧ opensOperand first = true := by
  cases rendering with
  | leaf form => exact leaf_opens normal
  | signed operator spaced operand => cases tight
  | joined operator left right => cases operator <;> cases tight
  | quantified relation quantifier body => cases relation <;> exact ⟨_, _, rfl, by decide⟩
  | enclosed inner => exact ⟨_, _, rfl, by decide⟩

/-- A rendering begins with something solid. -/
theorem rendering_solid {rendering : Rendering} (normal : rendering.expr.isNormal = true)
    (following : List Char) : IsSolid (rendering.text ++ following) := by
  obtain ⟨first, later, same, opens⟩ := rendering_opens normal
  rw [same, List.cons_append]
  rcases opens with operand | ⟨operator, rfl⟩
  · exact isSolid_of_opensOperand operand _
  · cases operator <;> exact isSolid_cons rfl _

/-! ### Reading at a level -/

/-- A level reads the rendering behind any blanks, and goes on from its expression. -/
def ReadsAt (inner : Reader Expr) (level : Nat) (rendering : Rendering) : Prop :=
  ∀ ⦃gap following : List Char⦄, IsGap gap → Follows (level + 1) following →
    (tier inner level).read (gap ++ (rendering.text ++ following)) =
      continueAt inner level rendering.expr following

/-- A row of signs takes up the leading signs of the rendering and leaves an operand, and
together they are its expression. -/
def ReadsSigns (inner : Reader Expr) (limit : Nat) (rendering : Rendering) : Prop :=
  ∀ ⦃gap following : List Char⦄, IsGap gap → Follows primaryTightness following →
    ∃ signs operand rest,
      (manyUpTo (do layout; unarySign) limit).read (gap ++ (rendering.text ++ following)) =
        .ok (signs, rest) ∧
      (primary inner).read rest = .ok (operand, following) ∧
      signs.foldr .unary operand = rendering.expr

/-- A rendering is read at every level up to its own, and behind signs if it may stand
there. -/
structure Reads (inner : Reader Expr) (rendering : Rendering) : Prop where
  levels : ∀ level, level ≤ rendering.tightness → ReadsAt inner level rendering
  signs : prefixTightness ≤ rendering.tightness → ∀ limit, rendering.leadingSigns ≤ limit →
    ReadsSigns inner limit rendering

section Readings

variable {inner : Reader Expr} {rendering : Rendering}

/-- What a level reads exactly, it reads as a whole if nothing of the level follows. -/
theorem ReadsAt.whole {level : Nat} (reads : ReadsAt inner level rendering)
    {gap following : List Char} (blank : IsGap gap) (follows : Follows level following) :
    (tier inner level).read (gap ++ (rendering.text ++ following)) =
      .ok (rendering.expr, following) :=
  (reads blank (follows.mono (Nat.le_succ level))).trans (continueAt_stop _ follows)

/-- What is read at a level is read at the looser one before it. -/
theorem ReadsAt.loosen {level : Nat} (inTable : level < prefixTightness)
    (reads : ReadsAt inner (level + 1) rendering) : ReadsAt inner level rendering := by
  intro gap following blank follows
  exact read_tier inTable (reads.whole blank follows)

/-- What is read at a level is read at every looser one. -/
theorem ReadsAt.loosest {level : Nat} (le : level ≤ prefixTightness)
    (reads : ReadsAt inner level rendering) :
    ∀ looser, looser ≤ level → ReadsAt inner looser rendering := by
  induction level with
  | zero =>
    intro looser below
    rwa [Nat.le_zero.mp below]
  | succ level inductionHypothesis =>
    intro looser below
    rcases Nat.lt_or_eq_of_le below with less | rfl
    · exact inductionHypothesis (Nat.le_of_lt le) (reads.loosen le) looser (Nat.lt_succ_iff.mp less)
    · exact reads

/-- With its signs, a rendering is read at the level of signs. -/
theorem ReadsSigns.readsAt (reads : ReadsSigns inner signLimit rendering) :
    ReadsAt inner prefixTightness rendering := by
  intro gap following blank follows
  obtain ⟨signs, operand, rest, signsRead, operandRead, same⟩ := reads blank follows
  change (signed inner).read _ = .ok (rendering.expr, following)
  rw [signed, read_bind signsRead, ← same]
  dsimp only
  split
  · exact read_map operandRead _
  · exact read_map (read_remarking (read_commit operandRead) _) _

/-! ### One constructor each -/

/-- What is read as a plain operand is read at every level. -/
theorem reads_primary (normal : rendering.expr.isNormal = true)
    (tight : rendering.tightness = primaryTightness)
    (read : ∀ {following : List Char}, Follows (primaryTightness + 1) following →
      (operand inner).read (rendering.text ++ following) = .ok (rendering.expr, following)) :
    Reads inner rendering := by
  obtain ⟨first, later, form, opens⟩ := primary_opens normal tight
  have atPrimary : ReadsAt inner primaryTightness rendering := by
    intro gap following blank follows
    have solid : IsSolid (rendering.text ++ following) := rendering_solid normal following
    exact read_primary blank solid (read follows)
  have signs : ∀ limit, ReadsSigns inner limit rendering := by
    intro limit gap following blank follows
    have ends : (layout >>= fun _ => unarySign).Declines
        (gap ++ (rendering.text ++ following)) :=
      declines_unarySign blank ⟨first, later ++ following, by rw [form]; rfl, opens⟩
    exact ⟨[], rendering.expr, _, ends.read_manyUpTo limit, atPrimary.whole blank follows, rfl⟩
  refine ⟨?_, fun _ limit _ => signs limit⟩
  intro level le
  rcases Nat.lt_or_eq_of_le (tight ▸ le) with less | rfl
  · exact (signs signLimit).readsAt.loosest (Nat.le_refl _) level (Nat.lt_succ_iff.mp less)
  · exact atPrimary

/-- A sign joins the row of signs in front of its operand. -/
theorem reads_signed {operator : UnaryOperator} {spaced : Bool} {operand : Rendering}
    (rows : operand.leadingSigns + 1 ≤ signLimit)
    (reads : ∀ limit, operand.leadingSigns ≤ limit → ReadsSigns inner limit operand) :
    Reads inner (.signed operator spaced operand) := by
  have signs : ∀ limit, operand.leadingSigns + 1 ≤ limit →
      ReadsSigns inner limit (.signed operator spaced operand) := by
    intro limit enough gap following blank follows
    obtain ⟨others, rfl⟩ : ∃ others, limit = others + 1 := ⟨limit - 1, by omega⟩
    have spaceBlank : IsGap (if spaced then [' '] else []) := by
      cases spaced <;> rfl
    obtain ⟨signs, core, rest, signsRead, coreRead, same⟩ :=
      reads others (Nat.le_of_succ_le_succ enough) spaceBlank follows
    have form : (Rendering.signed operator spaced operand).text ++ following =
        operator.sign :: ((if spaced then [' '] else []) ++ (operand.text ++ following)) := by
      simp only [Rendering.text, List.cons_append, List.append_assoc]
    refine ⟨operator :: signs, core, rest, ?_, coreRead, by rw [List.foldr_cons, same]; rfl⟩
    rw [form]
    exact read_manyUpTo_cons (read_unarySign blank operator _) signsRead
  refine ⟨?_, fun _ limit enough => signs limit enough⟩
  intro level le
  exact (signs signLimit rows).readsAt.loosest (Nat.le_refl _) level le

/-- An operator is read from the left: its left operand at its own level, with the operator
still to come, and its right operand at the next level. -/
theorem reads_joined {operator : BinaryOperator} {left right : Rendering}
    (normal : (Rendering.joined operator left right).expr.isNormal = true)
    (leftReads : ReadsAt inner operator.tightness left)
    (rightReads : ReadsAt inner (operator.tightness + 1) right) :
    Reads inner (.joined operator left right) := by
  have inTable : operator.tightness < prefixTightness := by cases operator <;> decide
  obtain ⟨_, rightNormal, compiles⟩ := Expr.operands_normal normal
  have atOwn : ReadsAt inner operator.tightness (.joined operator left right) := by
    intro gap following blank follows
    have form : (Rendering.joined operator left right).text ++ following =
        left.text ++ ' ' :: (operator.sign.toList ++ ' ' :: (right.text ++ following)) := by
      simp only [Rendering.text, List.append_assoc, List.cons_append]
    have readBare := rightReads.whole isGap_nil follows
    have readSpaced := rightReads.whole isGap_space follows
    rw [form, leftReads blank (follows_operator (Nat.lt_succ_self _) _)]
    exact continueAt_step _ (rendering_solid rightNormal following) readBare readSpaced compiles
  refine ⟨fun level le => atOwn.loosest (Nat.le_of_lt inTable) level le, ?_⟩
  intro tight
  exact absurd inTable (Nat.not_lt.mpr tight)

end Readings

/-! ### In parentheses -/

/-- The reader of what stands in parentheses, if so many may still be opened. -/
def innerAt (depth : Nat) : Reader Expr :=
  match depth with
  | 0 => overNested
  | depth + 1 => expression depth

/-- The expressions in parentheses are those of the loosest level. -/
theorem expression_eq (depth : Nat) : expression depth = tier (innerAt depth) 0 := by
  cases depth <;> rfl

/-- What can be read is read in parentheses, up to the closing one. -/
theorem Reads.inside {rendering : Rendering} {depth : Nat}
    (reads : Reads (innerAt depth) rendering) (following : List Char) :
    (expression depth).read (rendering.text ++ ')' :: following) =
      .ok (rendering.expr, ')' :: following) := by
  have readWhole := (reads.levels 0 (Nat.zero_le _)).whole isGap_nil (follows_closing 0 following)
  rw [expression_eq]
  simpa only [List.nil_append] using readWhole

/-- A pair of parentheses is read with what is inside, with one pair less to open. -/
theorem reads_enclosed {inside : Rendering} {depth : Nat} (normal : inside.expr.isNormal = true)
    (reads : Reads (innerAt depth) inside) :
    Reads (innerAt (depth + 1)) (.enclosed inside) := by
  refine reads_primary normal rfl ?_
  intro following follows
  have form : (Rendering.enclosed inside).text ++ following =
      '(' :: (inside.text ++ ')' :: following) := by
    simp [Rendering.text]
  rw [form]
  exact read_parenthesized (reads.inside following)

/-- A quantifier is read with its body, which stands in parentheses as well. -/
theorem reads_quantified {relation : Relation} {quantifier : Quantifier} {body : Rendering}
    {depth : Nat} (normal : body.expr.isNormal = true)
    (reads : Reads (innerAt depth) body) :
    Reads (innerAt (depth + 1)) (.quantified relation quantifier body) := by
  refine reads_primary normal rfl ?_
  intro following follows
  have form : (Rendering.quantified relation quantifier body).text ++ following =
      relation.word.toList ++ '.' :: (quantifier.word.toList ++ '(' ::
        (body.text ++ ')' :: following)) := by
    simp [Rendering.text]
  rw [form]
  exact read_relation relation (read_quantified relation quantifier (reads.inside following))

/-! ### Every rendering -/

/-- A grouped rendering is read if it opens no more parentheses at once and has no more signs
in a row than the grammar allows.

Induct over the rendering. Parentheses open the reader for one pair less, and there is one,
because the rendering fits. -/
theorem reads_rendering {rendering : Rendering} (grouped : rendering.isGrouped = true)
    (rows : rendering.longestRow ≤ signLimit) (normal : rendering.expr.isNormal = true)
    {depth : Nat} (fits : rendering.nesting ≤ depth) : Reads (innerAt depth) rendering := by
  induction rendering generalizing depth with
  | leaf form => exact reads_primary normal rfl fun follows => read_leaf follows normal
  | signed operator spaced operand inductionHypothesis =>
    simp only [Rendering.isGrouped, Bool.and_eq_true, decide_eq_true_eq] at grouped
    obtain ⟨own, others⟩ := Nat.max_le.mp rows
    exact reads_signed own ((inductionHypothesis grouped.1 others normal fits).signs grouped.2)
  | joined operator left right leftHypothesis rightHypothesis =>
    simp only [Rendering.isGrouped, Bool.and_eq_true, decide_eq_true_eq] at grouped
    obtain ⟨⟨⟨leftGrouped, rightGrouped⟩, leftTight⟩, rightTight⟩ := grouped
    obtain ⟨leftRows, rightRows⟩ := Nat.max_le.mp rows
    obtain ⟨leftFits, rightFits⟩ := Nat.max_le.mp fits
    obtain ⟨leftNormal, rightNormal, _⟩ := Expr.operands_normal normal
    exact reads_joined normal
      ((leftHypothesis leftGrouped leftRows leftNormal leftFits).levels _ leftTight)
      ((rightHypothesis rightGrouped rightRows rightNormal rightFits).levels _ rightTight)
  | quantified relation quantifier body inductionHypothesis =>
    obtain ⟨depth, rfl⟩ : ∃ others, depth = others + 1 :=
      ⟨depth - 1, by simp only [Rendering.nesting] at fits; omega⟩
    have bodyReads := inductionHypothesis grouped rows normal (Nat.le_of_succ_le_succ fits)
    exact reads_quantified normal bodyReads
  | enclosed inside inductionHypothesis =>
    obtain ⟨depth, rfl⟩ : ∃ others, depth = others + 1 :=
      ⟨depth - 1, by simp only [Rendering.nesting] at fits; omega⟩
    have insideReads := inductionHypothesis grouped rows normal (Nat.le_of_succ_le_succ fits)
    exact reads_enclosed normal insideReads

/-- A grouped rendering is read as a whole expression, behind blanks and in front of
everything that may follow an expression. -/
theorem read_expression {rendering : Rendering} (grouped : rendering.isGrouped = true)
    (rows : rendering.longestRow ≤ signLimit) (normal : rendering.expr.isNormal = true)
    {depth : Nat} (fits : rendering.nesting ≤ depth) {gap following : List Char}
    (blank : IsGap gap) (follows : Follows 0 following) :
    (expression depth).read (gap ++ (rendering.text ++ following)) =
      .ok (rendering.expr, following) := by
  have reads : Reads (innerAt depth) rendering := reads_rendering grouped rows normal fits
  rw [expression_eq]
  exact (reads.levels 0 (Nat.zero_le _)).whole blank follows

end WidgetAudit.Grammar
