import WidgetAudit.Evaluation

/-!
# Negation and its duals

Negating a condition exchanges conjunction and disjunction, and with them the quantifiers. That the
laws also hold when something has no value is due to the order of evaluation: both sides look at
the same operands and the same nodes, one after the other, and stop at the same one. And they hold
for operands that are no truth values, because a connective asks of a value only whether it is
true, which is what negation asks.

So the laws are laws of outcomes, which are true, false or a fault. `truthAt` is the outcome that a
connective sees of an expression, and each connective is an operation on these.
-/

namespace WidgetAudit

variable {ν : Type}

/-! ### Outcomes that are truth values -/

namespace Outcome

/-- The opposite of an outcome; a fault stays. -/
def opposite (outcome : Outcome Bool) : Outcome Bool := outcome.map not

/-- Whether both outcomes are true. The second one counts only if the first one is true. -/
def both (first second : Outcome Bool) : Outcome Bool :=
  first.bind fun holds => if holds then second else .ok false

/-- Whether one of the outcomes is true. The second one counts only if the first one is false. -/
def either (first second : Outcome Bool) : Outcome Bool :=
  first.bind fun holds => if holds then .ok true else second

/-- The opposite of both being true is that the opposite of one is. The second outcome counts in the
same cases on both sides. -/
theorem opposite_both (first second : Outcome Bool) :
    opposite (both first second) = either (opposite first) (opposite second) := by
  rcases first with fault | holds
  · rfl
  · cases holds <;> rfl

/-- The opposite of one being true is that the opposites of both are. -/
theorem opposite_either (first second : Outcome Bool) :
    opposite (either first second) = both (opposite first) (opposite second) := by
  rcases first with fault | holds
  · rfl
  · cases holds <;> rfl

/-- What stops in front of an outcome stops in front of its opposite. -/
theorem opposite_bind {α : Type} (first : Outcome α) (next : α → Outcome Bool) :
    opposite (first.bind next) = first.bind fun value => opposite (next value) := by
  cases first <;> rfl

end Outcome

open Outcome

namespace Quantifier

/-- That no node satisfies a condition is the opposite of that some node does. Both searches end at
the first node that satisfies it, or cannot be asked.

Induct over the nodes. -/
theorem decide_none (condition : ν → Outcome Bool) (nodes : List ν) :
    Quantifier.none.decide condition nodes = opposite (Quantifier.any.decide condition nodes) := by
  induction nodes with
  | nil => rfl
  | cons node others inductionHypothesis =>
    simp only [decide]
    rcases condition node with fault | isHit
    · rfl
    · cases isHit with
      | true => rfl
      | false => exact inductionHypothesis

/-- That all nodes satisfy a condition is the opposite of that some node satisfies its opposite.
Both searches end at the first node that does not satisfy it, or cannot be asked.

Induct over the nodes. -/
theorem decide_all (condition : ν → Outcome Bool) (nodes : List ν) :
    Quantifier.all.decide condition nodes =
      opposite (Quantifier.any.decide (fun node => opposite (condition node)) nodes) := by
  induction nodes with
  | nil => rfl
  | cons node others inductionHypothesis =>
    simp only [decide]
    rcases condition node with fault | isHit
    · rfl
    · cases isHit with
      | true => exact inductionHypothesis
      | false => rfl

end Quantifier

namespace Expr

/-- The truth of a truth value is that value. -/
theorem map_isTrue_bool (outcome : Outcome Bool) :
    (outcome.map Value.bool).map Value.isTrue = outcome := by
  cases outcome <;> rfl

/-! ### Connectives -/

variable [RegexEngine]

/-- What a connective sees of an expression: whether it is true. -/
def truthAt (host : Host ν) (limit : Option Nat) (expr : Expr) (depth : Nat) (node : ν) :
    Outcome Bool :=
  (expr.evaluateAt host limit depth node).map Value.isTrue

section Truth

variable {host : Host ν} {limit : Option Nat} {depth : Nat} {node : ν}

/-- A negation is the opposite of the truth of its operand, as a truth value. -/
theorem evaluateAt_not (operand : Expr) :
    (unary .not operand).evaluateAt host limit depth node =
      (opposite (operand.truthAt host limit depth node)).map .bool := by
  simp only [truthAt, evaluateAt]
  cases operand.evaluateAt host limit depth node <;> rfl

/-- A conjunction is the truth of both operands, the second one being asked only if the first holds.
-/
theorem evaluateAt_and (left right : Expr) :
    (binary .and left right).evaluateAt host limit depth node =
      (both (left.truthAt host limit depth node) (right.truthAt host limit depth node)).map
        .bool := by
  simp only [truthAt, evaluateAt]
  rcases left.evaluateAt host limit depth node with fault | first
  · rfl
  · dsimp only [bind, Except.bind, Except.map, both]
    cases first.isTrue with
    | true => cases right.evaluateAt host limit depth node <;> rfl
    | false => rfl

/-- A disjunction is the truth of one of the operands, the second one being asked only if the first
fails. -/
theorem evaluateAt_or (left right : Expr) :
    (binary .or left right).evaluateAt host limit depth node =
      (either (left.truthAt host limit depth node) (right.truthAt host limit depth node)).map
        .bool := by
  simp only [truthAt, evaluateAt]
  rcases left.evaluateAt host limit depth node with fault | first
  · rfl
  · dsimp only [bind, Except.bind, Except.map, either]
    cases first.isTrue with
    | true => rfl
    | false => cases right.evaluateAt host limit depth node <;> rfl

/-- A quantifier looks at the limit, and then asks at each related node whether the body is true. -/
theorem evaluateAt_quantified (relation : Relation) (quantifier : Quantifier) (body : Expr) :
    (quantified relation quantifier body).evaluateAt host limit depth node =
      ((descend limit depth).bind fun inside =>
        quantifier.decide (body.truthAt host limit inside) (host.related node relation)).map
          .bool := by
  simp only [evaluateAt]
  cases descend limit depth <;> rfl

/-- The truth of a negation is the opposite truth. -/
theorem truthAt_not (operand : Expr) :
    (unary .not operand).truthAt host limit depth node =
      opposite (operand.truthAt host limit depth node) := by
  rw [truthAt, evaluateAt_not, map_isTrue_bool]

/-- The truth of a conjunction is that of both operands. -/
theorem truthAt_and (left right : Expr) :
    (binary .and left right).truthAt host limit depth node =
      both (left.truthAt host limit depth node) (right.truthAt host limit depth node) := by
  rw [truthAt, evaluateAt_and, map_isTrue_bool]

/-- The truth of a disjunction is that of either operand. -/
theorem truthAt_or (left right : Expr) :
    (binary .or left right).truthAt host limit depth node =
      either (left.truthAt host limit depth node) (right.truthAt host limit depth node) := by
  rw [truthAt, evaluateAt_or, map_isTrue_bool]

/-- The truth of a quantifier is decided by the truth of its body at the related nodes, one level
further inside. -/
theorem truthAt_quantified (relation : Relation) (quantifier : Quantifier) (body : Expr) :
    (quantified relation quantifier body).truthAt host limit depth node =
      (descend limit depth).bind fun inside =>
        quantifier.decide (body.truthAt host limit inside) (host.related node relation) := by
  rw [truthAt, evaluateAt_quantified, map_isTrue_bool]

end Truth

/-! ### The laws -/

/-- Two expressions come to the same, be it a value or a fault, at every node of every host, inside
any number of quantifiers and under any limit on them. -/
def Equivalent (first second : Expr) : Prop :=
  ∀ {ν : Type} (host : Host ν) (limit : Option Nat) (depth : Nat) (node : ν),
    first.evaluateAt host limit depth node = second.evaluateAt host limit depth node

/-- No node fulfils a condition if it is not the case that one does. -/
theorem none_equivalent (relation : Relation) (body : Expr) :
    Equivalent (quantified relation .none body) (unary .not (quantified relation .any body)) := by
  intro ν host limit depth node
  rw [evaluateAt_not, truthAt_quantified, opposite_bind, evaluateAt_quantified]
  simp only [Quantifier.decide_none]

/-- All nodes fulfil a condition if none of them fails it. -/
theorem all_equivalent (relation : Relation) (body : Expr) :
    Equivalent (quantified relation .all body)
      (unary .not (quantified relation .any (unary .not body))) := by
  intro ν host limit depth node
  have negated (inside : Nat) : (unary .not body).truthAt host limit inside =
      fun place => opposite (body.truthAt host limit inside place) :=
    funext fun _ => truthAt_not body
  rw [evaluateAt_not, truthAt_quantified, opposite_bind, evaluateAt_quantified]
  simp only [Quantifier.decide_all, negated]

/-- A conjunction fails if one of its operands does. -/
theorem not_and_equivalent (left right : Expr) :
    Equivalent (unary .not (binary .and left right))
      (binary .or (unary .not left) (unary .not right)) := by
  intro ν host limit depth node
  rw [evaluateAt_not, truthAt_and, opposite_both, evaluateAt_or, truthAt_not, truthAt_not]

/-- A disjunction fails if both of its operands do. -/
theorem not_or_equivalent (left right : Expr) :
    Equivalent (unary .not (binary .or left right))
      (binary .and (unary .not left) (unary .not right)) := by
  intro ν host limit depth node
  rw [evaluateAt_not, truthAt_or, opposite_either, evaluateAt_and, truthAt_not, truthAt_not]

/-- Negation is dual through every connective, with faults and with operands of any kind: that none
of the related nodes satisfies a body is that not any of them does, that all of them satisfy it is
that not any of them fails to, and a negated conjunction or disjunction is the other one of the
negated operands. The kinds that selectors may name do not enter the evaluation of an expression.

Proof: each side is an operation on the truth of the parts, and the operations are dual. -/
theorem negation_is_dual (relation : Relation) (left right body : Expr) :
    Equivalent (quantified relation .none body) (unary .not (quantified relation .any body)) ∧
    Equivalent (quantified relation .all body)
      (unary .not (quantified relation .any (unary .not body))) ∧
    Equivalent (unary .not (binary .and left right))
      (binary .or (unary .not left) (unary .not right)) ∧
    Equivalent (unary .not (binary .or left right))
      (binary .and (unary .not left) (unary .not right)) :=
  ⟨none_equivalent relation body, all_equivalent relation body, not_and_equivalent left right,
    not_or_equivalent left right⟩

end Expr

end WidgetAudit
