import NodeFit.Filter
import NodeFit.Proofs.Conditional

/-!
# NodeFit.Proofs.Node.Same

Nodes that differ in nothing but the suffix families of their amounts.

Nothing that looks at nodes sees a difference between them.  A filter judges each of two such
nodes like the other (`passes_congr`), so that it keeps the same of two such lists or fails for
both with the same error (`matchingNodes_congr`), and a conditional has the same truth value
or error over them (`evaluateConditional_congr_same`).

The family is how an amount was written, and it is chosen anew when an amount is printed and read
again.  All comparisons are of `Quantity.nano`, which the proofs here follow from a single
amount to aggregates.
-/

namespace NodeFit

/-- Two nodes have the same name, the same labels and the same amounts, which may be written in
different families. -/
structure ClusterNode.Same (node other : ClusterNode) : Prop where
  name : node.name = other.name
  labels : node.labels = other.labels
  amounts : ∀ p, (node.get? p).map Quantity.nano = (other.get? p).map Quantity.nano

variable {node other : ClusterNode} {nodes others : List ClusterNode}

/-! ## Filters -/

/-- Both nodes reach a bound, or neither does. -/
theorem ClusterNode.Same.reaches_eq (h : node.Same other) (p : NodeProperty) (bound : Quantity) :
    Filter.reaches node p bound = Filter.reaches other p bound := by
  have hamount := h.amounts p
  rw [Filter.reaches, Filter.reaches]
  cases hn : node.get? p with
  | none =>
      rw [hn, Option.map_none, eq_comm, Option.map_eq_none_iff] at hamount
      rw [hamount]
  | some q =>
      rw [hn, Option.map_some, eq_comm, Option.map_eq_some_iff] at hamount
      obtain ⟨r, hr, hnano⟩ := hamount
      simp only [hr, Quantity.le, hnano]

/-- Going through bounds has the same end for both nodes. -/
theorem ClusterNode.Same.meets_eq (h : node.Same other)
    (thresholds : List (NodeProperty × String)) :
    Filter.meets node thresholds = Filter.meets other thresholds := by
  induction thresholds with
  | nil => rfl
  | cons threshold rest ih =>
      obtain ⟨p, written⟩ := threshold
      simp only [Filter.meets, h.reaches_eq, ih]

/-- **A filter judges the two nodes alike.** -/
theorem ClusterNode.Same.passes_congr (h : node.Same other) (filter : Option Filter) :
    node.passes filter = other.passes filter := by
  have hlabel : ∀ label, node.hasLabel label = other.hasLabel label := by
    intro label
    rw [hasLabel, hasLabel, h.labels]
  cases filter with
  | none => rfl
  | some filter => simp only [passes, Filter.accepts, hlabel, h.meets_eq]

/-- **A filter keeps the same of two lists**, or fails for both with the same error. -/
theorem matchingNodes_congr (h : List.Forall₂ ClusterNode.Same nodes others)
    (filter : Option Filter) :
    (∃ e, matchingNodes filter nodes = .error e ∧ matchingNodes filter others = .error e) ∨
    ∃ kept kept', matchingNodes filter nodes = .ok kept ∧
      matchingNodes filter others = .ok kept' ∧ List.Forall₂ ClusterNode.Same kept kept' := by
  induction h with
  | nil => exact .inr ⟨[], [], rfl, rfl, .nil⟩
  | @cons node other rest rest' hnode _ ih =>
      rw [matchingNodes, matchingNodes, ← hnode.passes_congr filter]
      cases hpasses : node.passes filter with
      | error e => exact .inl ⟨e, rfl, rfl⟩
      | ok passes =>
          rcases ih with ⟨e, he, he'⟩ | ⟨kept, kept', hkept, hkept', hsame⟩
          · rw [he, he']
            exact .inl ⟨e, rfl, rfl⟩
          · rw [hkept, hkept']
            cases passes with
            | true => exact .inr ⟨_, _, rfl, rfl, .cons hnode hsame⟩
            | false => exact .inr ⟨_, _, rfl, rfl, hsame⟩

/-! ## Conditionals -/

/-- Both nodes report the same amount under a name. -/
theorem ClusterNode.Same.lookup_nano (h : node.Same other) (property : String) :
    (node.lookup property).map Quantity.nano = (other.lookup property).map Quantity.nano := by
  rw [lookup, lookup]
  cases NodeProperty.ofName? property with
  | none => rfl
  | some p => exact h.amounts p

/-- The two lists report the same amounts in the same order. -/
theorem reportedAmounts_nano (h : List.Forall₂ ClusterNode.Same nodes others) (property : String) :
    (reportedAmounts property nodes).map Quantity.nano =
      (reportedAmounts property others).map Quantity.nano := by
  rw [reportedAmounts, reportedAmounts, List.map_filterMap, List.map_filterMap]
  induction h with
  | nil => rfl
  | cons hnode _ ih => simp only [List.filterMap_cons, hnode.lookup_nano, ih]

/-- An aggregate over the two lists has the same amount. -/
theorem aggregate_congr (h : List.Forall₂ ClusterNode.Same nodes others)
    (function : AggregateFunction) (property : String) :
    (aggregate function property nodes).SameAmount (aggregate function property others) := by
  have hamounts := reportedAmounts_nano h property
  have hperm := List.Perm.of_eq hamounts
  cases function with
  | count =>
      simp only [aggregate, h.length_eq]
      exact .count _
  | min =>
      exact sameAmount_of_extreme Int.le_antisymm Quantity.least?_eq_none_iff
        Quantity.least?_spec hperm
  | max =>
      exact sameAmount_of_extreme (fun hmn hnm => Int.le_antisymm hnm hmn)
        Quantity.greatest?_eq_none_iff Quantity.greatest?_spec hperm
  | sum =>
      refine .quantity ?_
      rw [Quantity.sum_nano_eq_runningTotal, Quantity.sum_nano_eq_runningTotal, hamounts]

/-- **A conditional sees no difference between the two lists.** -/
theorem evaluateConditional_congr_same (h : List.Forall₂ ClusterNode.Same nodes others)
    (text : String) : evaluateConditional text nodes = evaluateConditional text others :=
  evaluateConditional_congr text fun function property => aggregate_congr h function property

end NodeFit
