import Mathlib.Data.List.Sort
import Mathlib.Order.Bounds.Basic
import WidgetAudit.Proofs.Widget.Relations

/-!
# The order of the focus

The next stop of a node is found by a scan of the row behind the node, and the previous one by a
scan of the row before it, backwards. Each scan takes the first stop that it comes upon. What lies
behind that stop in the row that is scanned is just what a scan from there goes through, so whoever
follows one of the scans from stop to stop meets all the stops in the row of the first scan.

The two scans are not defined by one another. That they lead back and forth between the same
neighbours is due to the order of the places: the next stop is the least one behind a node, and the
previous stop the greatest one before it.
-/

namespace WidgetAudit.WidgetTree

/-! ### Scanning a row -/

section Scan

variable {isStop : Nat → Bool}

/-- In a row that has an order a scan finds the stop that is ahead of all other ones. -/
theorem find?_eq_some_iff_of_pairwise {ahead : Nat → Nat → Prop} [Std.Asymm ahead]
    {row : List Nat} (ordered : row.Pairwise ahead) {stop : Nat} :
    row.find? isStop = some stop ↔
      (stop ∈ row ∧ isStop stop = true) ∧
        ∀ other, other ∈ row ∧ isStop other = true → other = stop ∨ ahead stop other := by
  induction ordered with
  | nil => simp
  | @cons first others before _ inductionHypothesis =>
    by_cases stops : isStop first = true
    · rw [List.find?_cons_of_pos stops, Option.some_inj]
      constructor
      · rintro rfl
        refine ⟨⟨List.mem_cons_self, stops⟩, fun other listed => ?_⟩
        exact (List.mem_cons.1 listed.1).imp_right (before other)
      · rintro ⟨⟨listed, _⟩, foremost⟩
        rcases List.mem_cons.1 listed with here | later
        · exact here.symm
        · have alsoAhead := foremost first ⟨List.mem_cons_self, stops⟩
          exact alsoAhead.resolve_right (Std.Asymm.asymm _ _ (before stop later))
    · rw [List.find?_cons_of_neg stops, inductionHypothesis]
      have elsewhere : isStop stop = true → stop ≠ first := by
        rintro alsoStops rfl
        exact stops alsoStops
      grind

/-- If behind each node that lies ahead of one comes what lies ahead of that node, then whoever
follows the scans of what lies ahead meets all the stops there.

Induct on the length of what lies ahead. The scan cuts it at the first stop, before which there is
none, and what is behind the cut lies ahead of that stop. -/
theorem follows_scans {ahead : Nat → List Nat}
    (resumes : ∀ {node next : Nat} {before after : List Nat},
      ahead node = before ++ next :: after → ahead next = after) (node : Nat) :
    Follows (fun node => ((ahead node).find? isStop).toList) node ((ahead node).filter isStop) := by
  induction length : (ahead node).length using Nat.strongRecOn generalizing node with
  | _ count inductionHypothesis =>
    cases scanned : (ahead node).find? isStop with
    | none =>
      have free : (ahead node).filter isStop = [] := by
        rw [← List.head?_eq_none_iff, List.head?_filter, scanned]
      rw [free]
      exact .ended (by rw [scanned, Option.toList_none])
    | some next =>
      obtain ⟨stops, before, after, row, free⟩ := List.find?_eq_some_iff_append.1 scanned
      have onwards : ahead next = after := resumes row
      have shorter : (ahead next).length < count := by
        rw [← length, row, onwards, List.length_append, List.length_cons]
        omega
      have met : (ahead node).filter isStop = next :: (ahead next).filter isStop := by
        rw [row, onwards, List.filter_append, List.filter_cons_of_pos stops,
          List.filter_eq_nil_iff.2 (by simpa using free), List.nil_append]
      rw [met]
      exact .led (by rw [scanned, Option.toList_some])
        (inductionHypothesis _ shorter next rfl)

end Scan

/-! ### Stops -/

variable {tree : WidgetTree}

/-- The stops of the focus in the order of the row: the nodes that can be focused and are not
hidden. -/
def stops (tree : WidgetTree) : List Nat :=
  tree.nodes.filter fun node => (tree.widget node).focusable && !(tree.widget node).hidden

/-- The focus stops at the stops and nowhere else, not even outside of the row. -/
theorem mem_stops_iff {node : Nat} : node ∈ tree.stops ↔ tree.isFocusStop node = true := by
  rw [stops, List.mem_filter, nodes, List.mem_range]
  refine ⟨And.right, fun stops => ⟨?_, stops⟩⟩
  by_contra outside
  rw [isFocusStop, widget, slot_outside (Nat.le_of_not_lt outside)] at stops
  cases stops

/-- The stops belong to the tree. -/
theorem lt_size_of_mem_stops {node : Nat} (stop : node ∈ tree.stops) : node < tree.size :=
  List.mem_range.1 (List.mem_of_mem_filter stop)

/-- In the row behind a node there are the stops behind the node. -/
theorem mem_behind_iff {node stop : Nat} :
    stop ∈ List.range' (node + 1) (tree.size - (node + 1)) ∧ tree.isFocusStop stop = true ↔
      stop ∈ tree.stops ∧ node < stop := by
  rw [← mem_stops_iff, List.mem_range'_1, and_comm]
  apply and_congr_right
  intro listed
  have inTree := lt_size_of_mem_stops listed
  omega

/-- In the row before a node there are the stops before the node. -/
theorem mem_before_iff {node stop : Nat} :
    stop ∈ (List.range node).reverse ∧ tree.isFocusStop stop = true ↔
      stop ∈ tree.stops ∧ stop < node := by
  rw [← mem_stops_iff, List.mem_reverse, List.mem_range, and_comm]

/-- A scan finds one stop or none. -/
theorem toList_eq_nil_or_singleton (found : Option Nat) :
    found.toList = [] ∨ ∃ stop, found.toList = [stop] := by
  cases found with
  | none => exact .inl rfl
  | some stop => exact .inr ⟨stop, rfl⟩

/-- The next stop is the least one behind a node. -/
theorem nextFocus_eq_singleton_iff {node stop : Nat} :
    tree.nextFocus node = [stop] ↔ IsLeast {other | other ∈ tree.stops ∧ node < other} stop := by
  have order (other : Nat) : other = stop ∨ stop < other ↔ stop ≤ other := by omega
  rw [nextFocus, Option.toList_eq_singleton_iff,
    find?_eq_some_iff_of_pairwise List.pairwise_lt_range']
  simp only [mem_behind_iff, order]
  rfl

/-- The previous stop is the greatest one before a node. -/
theorem previousFocus_eq_singleton_iff {node stop : Nat} :
    tree.previousFocus node = [stop] ↔
      IsGreatest {other | other ∈ tree.stops ∧ other < node} stop := by
  have order (other : Nat) : other = stop ∨ stop > other ↔ other ≤ stop := by omega
  rw [previousFocus, Option.toList_eq_singleton_iff,
    find?_eq_some_iff_of_pairwise (List.pairwise_reverse.2 List.pairwise_lt_range)]
  simp only [mem_before_iff, order]
  rfl

/-- There is no next stop exactly if no stop is behind the node. -/
theorem nextFocus_eq_nil_iff {node : Nat} :
    tree.nextFocus node = [] ↔ ∀ stop ∈ tree.stops, stop ≤ node := by
  rw [nextFocus, Option.toList_eq_nil_iff, List.find?_eq_none]
  simp only [← not_and, mem_behind_iff]
  simp only [not_and, Nat.not_lt]

/-- There is no previous stop exactly if no stop is before the node. -/
theorem previousFocus_eq_nil_iff {node : Nat} :
    tree.previousFocus node = [] ↔ ∀ stop ∈ tree.stops, node ≤ stop := by
  rw [previousFocus, Option.toList_eq_nil_iff, List.find?_eq_none]
  simp only [← not_and, mem_before_iff]
  simp only [not_and, Nat.not_lt]

/-- The stops ascend. -/
theorem pairwise_stops (tree : WidgetTree) : tree.stops.Pairwise (· < ·) :=
  List.pairwise_lt_range.filter _

/-! ### Following the focus -/

/-- Following the next stops from a node meets the stops behind it, in the order of the row. -/
theorem follows_nextFocus (tree : WidgetTree) (node : Nat) :
    Follows tree.nextFocus node (tree.stops.filter (node < ·)) := by
  have met : tree.stops.filter (node < ·) =
      (List.range' (node + 1) (tree.size - (node + 1))).filter tree.isFocusStop := by
    refine (tree.pairwise_stops.filter _).eq_of_mem_iff
      (List.Pairwise.filter _ List.pairwise_lt_range') fun stop => ?_
    simp only [List.mem_filter, mem_behind_iff, decide_eq_true_eq]
  rw [met]
  refine follows_scans ?_ node
  intro node next before after row
  obtain ⟨count, within, -, behind⟩ := List.range'_eq_append_iff.1 row
  obtain ⟨rfl, positive, rfl⟩ := List.range'_eq_cons_iff.1 behind.symm
  congr 1
  omega

/-- Following the previous stops from a node meets the stops before it, the nearest one first. -/
theorem follows_previousFocus (tree : WidgetTree) (node : Nat) :
    Follows tree.previousFocus node (tree.stops.filter (· < node)).reverse := by
  have met : tree.stops.filter (· < node) = (List.range node).filter tree.isFocusStop := by
    refine (tree.pairwise_stops.filter _).eq_of_mem_iff
      (List.pairwise_lt_range.filter _) fun stop => ?_
    simp only [List.mem_filter, ← mem_before_iff, List.mem_reverse, decide_eq_true_eq]
  rw [met, ← List.filter_reverse]
  refine follows_scans ?_ node
  intro node previous before after row
  have forwards : List.range' 0 node = after.reverse ++ previous :: before.reverse := by
    rw [← List.range_eq_range', ← List.reverse_reverse (List.range node), row]
    simp
  obtain ⟨count, -, early, behind⟩ := List.range'_eq_append_iff.1 forwards
  obtain ⟨here, -, -⟩ := List.range'_eq_cons_iff.1 behind.symm
  rw [← List.reverse_reverse after, early, List.range_eq_range', ← here, Nat.zero_add, Nat.mul_one]

/-- The focus of a tree goes along one chain of stops. -/
structure FocusChain (tree : WidgetTree) : Prop where
  /-- The stops ascend in the row, so each of them stands there once. -/
  ascending : tree.stops.Pairwise (· < ·)
  /-- Behind a node the focus goes on to the nearest stop, if there is one. -/
  next : ∀ node, (tree.nextFocus node = [] ∧ ∀ stop ∈ tree.stops, stop ≤ node) ∨
    ∃ stop, tree.nextFocus node = [stop] ∧
      IsLeast {other | other ∈ tree.stops ∧ node < other} stop
  /-- Before a node it goes back to the nearest stop, if there is one. -/
  previous : ∀ node, (tree.previousFocus node = [] ∧ ∀ stop ∈ tree.stops, node ≤ stop) ∨
    ∃ stop, tree.previousFocus node = [stop] ∧
      IsGreatest {other | other ∈ tree.stops ∧ other < node} stop
  /-- From one stop it goes on to another exactly if it goes back from there. -/
  inverse : ∀ node ∈ tree.stops, ∀ other ∈ tree.stops,
    (tree.nextFocus node = [other] ↔ tree.previousFocus other = [node])
  /-- On the way from the outermost node to the last stop every other stop is met, in the order of
  the row. -/
  onwards : ∀ visited, Follows tree.nextFocus 0 visited ↔ visited = tree.stops.filter (· != 0)
  /-- On the way back from the last node every other stop is met, in the opposite order. -/
  back : ∀ visited, Follows tree.previousFocus (tree.size - 1) visited ↔
    visited = (tree.stops.filter (· != tree.size - 1)).reverse

/-- The focus of every tree goes along one chain of stops, whichever nodes the stops are.

Proof: each scan finds the nearest stop in its direction, and what it leaves of the row is what the
scan from there goes through. -/
theorem focus_goes_along_chain (tree : WidgetTree) : tree.FocusChain where
  ascending := tree.pairwise_stops
  next node := by
    have scanned : tree.nextFocus node = [] ∨ ∃ stop, tree.nextFocus node = [stop] :=
      toList_eq_nil_or_singleton _
    rcases scanned with nowhere | ⟨stop, found⟩
    · exact .inl ⟨nowhere, nextFocus_eq_nil_iff.1 nowhere⟩
    · exact .inr ⟨stop, found, nextFocus_eq_singleton_iff.1 found⟩
  previous node := by
    have scanned : tree.previousFocus node = [] ∨ ∃ stop, tree.previousFocus node = [stop] :=
      toList_eq_nil_or_singleton _
    rcases scanned with nowhere | ⟨stop, found⟩
    · exact .inl ⟨nowhere, previousFocus_eq_nil_iff.1 nowhere⟩
    · exact .inr ⟨stop, found, previousFocus_eq_singleton_iff.1 found⟩
  inverse node stop other otherStop := by
    rw [nextFocus_eq_singleton_iff, previousFocus_eq_singleton_iff]
    simp only [IsLeast, IsGreatest, lowerBounds, upperBounds, Set.mem_ofPred_eq, stop, otherStop,
      true_and]
    grind
  onwards visited := by
    have others : tree.stops.filter (0 < ·) = tree.stops.filter (· != 0) := by
      refine List.filter_congr fun stop _ => ?_
      rw [Bool.eq_iff_iff, decide_eq_true_iff, bne_iff_ne, Nat.pos_iff_ne_zero]
    rw [(tree.follows_nextFocus 0).iff_eq, others]
  back visited := by
    have others : tree.stops.filter (· < tree.size - 1) =
        tree.stops.filter (· != tree.size - 1) := by
      refine List.filter_congr fun stop listed => ?_
      have inTree := lt_size_of_mem_stops listed
      rw [Bool.eq_iff_iff, decide_eq_true_iff, bne_iff_ne]
      omega
    rw [(tree.follows_previousFocus (tree.size - 1)).iff_eq, others]

-- The focus passes over a field that is hidden, in both directions.
example :
    let tree := ofNested (.node default [.node { (default : Widget) with focusable := true } [],
      .node { (default : Widget) with focusable := true, hidden := true } [],
      .node { (default : Widget) with focusable := true } []])
    tree.nextFocus 1 = [3] ∧ tree.previousFocus 3 = [1] ∧ tree.nextFocus 3 = [] := by
  decide

end WidgetAudit.WidgetTree
