import WidgetAudit.Value

/-!
# Hosts

Rules never see a widget tree itself. They see nodes through a host, which answers about
one node at a time: what the node is, and which nodes stand in which relation to it. A host
has to answer the questions that every user interface can answer; for the others there is a
common answer, which a host may replace.
-/

namespace WidgetAudit

/-- What rules can ask about the nodes of a type. -/
structure Host (ν : Type) where
  role : ν → String
  type : ν → String
  isFocusable : ν → Bool
  isEnabled : ν → Bool
  isHidden : ν → Bool
  isChecked : ν → Bool := fun _ => false
  isToggled : ν → Bool := fun _ => false
  mergesDescendants : ν → Bool
  hasTap : ν → Bool
  hasLongPress : ν → Bool
  /-- The nodes directly inside a node, in their order. -/
  children : ν → List ν
  /-- The nodes around a node, the nearest one first. -/
  ancestors : ν → List ν
  /-- The other children of a node's parent. -/
  siblings : ν → List ν
  nextFocus : ν → List ν := fun _ => []
  previousFocus : ν → List ν := fun _ => []
  isEmpty : ν → Bool := fun node => (children node).isEmpty
  /-- The value of a property, unless it is absent or unknown. -/
  property? : ν → String → Option Value
  isResolved : ν → String → Bool
  /-- A bound on the number of nodes inside any node, that node included. -/
  size : Nat

namespace Host

variable {ν : Type}

/-- Take the last node off a stack, at most so many times, and put its children behind the
rest. They are put there in reverse, so that the first child is the next one to be taken. -/
def sweep (host : Host ν) : Nat → Array ν → List ν
  | 0, _ => []
  | limit + 1, stack =>
    match stack.back? with
    | none => []
    | some node => node :: sweep host limit (stack.pop ++ (host.children node).reverse)

/-- A node and everything inside it, each node before the nodes inside it. -/
def preOrder (host : Host ν) (root : ν) : List ν := host.sweep host.size #[root]

end Host

end WidgetAudit
