import NodeFit.Proofs.Conditional
import NodeFit.Proofs.Filter
import NodeFit.Proofs.Outcome
import NodeFit.Result

/-!
# NodeFit.Proofs.Order

The order of the nodes does not change a result.

Whether a list of nodes can be filtered depends on each node alone, and so does which nodes
are kept, so that filtering keeps permutations (`matchingNodes_perm`).  Aggregates keep
their amounts, also where a sum stops at the end of the range, and conditionals see nothing
else of them.

The amounts must not be negative for this: a sum that stops at one end of the range and
comes back from it depends on the order.  Errors need more care than values, since another order
reports another node first; only that there is an error is the same
(`applyOutcomes_matching_perm`).
-/

namespace NodeFit

variable {nodes nodes' : List ClusterNode}

/-- **Filtering keeps permutations**: of two lists with the same nodes, both can be filtered
or neither, and the same nodes are kept. -/
theorem matchingNodes_perm (h : nodes.Perm nodes') (filter : Option Filter) :
    (∃ e, matchingNodes filter nodes = .error e) ∧ (∃ e, matchingNodes filter nodes' = .error e) ∨
    ∃ matching matching', matchingNodes filter nodes = .ok matching ∧
      matchingNodes filter nodes' = .ok matching' ∧ matching.Perm matching' := by
  have hiff : (∀ node ∈ nodes, ∃ b, node.passes filter = .ok b) ↔
      ∀ node ∈ nodes', ∃ b, node.passes filter = .ok b :=
    ⟨fun hall node hnode => hall node (h.mem_iff.2 hnode),
      fun hall node hnode => hall node (h.mem_iff.1 hnode)⟩
  cases hn : matchingNodes filter nodes with
  | ok matching =>
      obtain ⟨hall, rfl⟩ := matchingNodes_eq_ok_iff.1 hn
      have hn' := matchingNodes_eq_ok_iff.2 ⟨hiff.1 hall, rfl⟩
      exact .inr ⟨_, _, rfl, hn', h.filter _⟩
  | error e =>
      cases hn' : matchingNodes filter nodes' with
      | error e' => exact .inl ⟨⟨e, rfl⟩, ⟨e', rfl⟩⟩
      | ok matching' =>
          obtain ⟨hall, -⟩ := matchingNodes_eq_ok_iff.1 hn'
          rw [matchingNodes_eq_ok_iff.2 ⟨hiff.2 hall, rfl⟩] at hn
          contradiction

/-- Outcomes do not depend on the order of the nodes. -/
theorem applyOutcomes_perm (h : nodes.Perm nodes') (hnonneg : NonNegative nodes)
    (start : AnalysisResult) (outcomes : List Outcome) :
    applyOutcomes start outcomes nodes = applyOutcomes start outcomes nodes' := by
  have hholds : ∀ o ∈ outcomes, o.holds nodes = o.holds nodes' := fun o _ =>
    evaluateConditional_congr _ fun function property => aggregate_perm function property h hnonneg
  rw [applyOutcomes, applyOutcomes, selectOutcome_congr hholds]

/-- **The order of the nodes does not change a result.**  Of two lists with the same nodes,
none of which reports a negative amount, filtering fails for both, or it keeps the same nodes
of both and the outcomes come to the same result or error. -/
theorem applyOutcomes_matching_perm (h : nodes.Perm nodes') (hnonneg : NonNegative nodes)
    (filter : Option Filter) (start : AnalysisResult) (outcomes : List Outcome) :
    (∃ e, matchingNodes filter nodes = .error e) ∧ (∃ e, matchingNodes filter nodes' = .error e) ∨
    ∃ matching matching', matchingNodes filter nodes = .ok matching ∧
      matchingNodes filter nodes' = .ok matching' ∧ matching.Perm matching' ∧
      applyOutcomes start outcomes matching = applyOutcomes start outcomes matching' := by
  rcases matchingNodes_perm h filter with herror | ⟨matching, matching', hm, hm', hperm⟩
  · exact .inl herror
  · have hkept : NonNegative matching := by
      obtain ⟨-, rfl⟩ := matchingNodes_eq_ok_iff.1 hm
      exact fun node hnode => hnonneg node (List.mem_filter.1 hnode).1
    exact .inr ⟨matching, matching', hm, hm', hperm,
      applyOutcomes_perm hperm hkept start outcomes⟩

/-- A node whose memory is as large as an amount can be. -/
def fullNode (name : String) (format : QuantityFormat) : ClusterNode :=
  (ClusterNode.ofName name).withAmount ⟨.memory, .capacity⟩ (.clamp (Quantity.limit - 1) format)

/-- Two full nodes, and one between them that reports nothing. -/
def fullNodes : List ClusterNode :=
  [fullNode "first" .binarySI, .ofName "empty", fullNode "last" .decimalSI]

/-- Nodes with any memory to speak of. -/
def memoryFilter : Filter := Filter.empty.withBound ⟨.memory, .capacity⟩ "1Ki"

theorem nonNegative_fullNodes : NonNegative fullNodes := by
  have hall : ∀ node ∈ fullNodes, ∀ p ∈ NodeProperty.all, ∀ q ∈ (node.get? p).toList,
      0 ≤ q.nano := by decide +kernel
  intro node hnode p q hq
  exact hall node hnode p p.mem_all q (by simp [hq])

/-- The memory of two full nodes stops at the end of the range, whichever comes first. -/
theorem applyOutcomes_matching_perm_full :
    fullNodes.Perm fullNodes.reverse ∧ NonNegative fullNodes ∧
    ∃ matching matching', matchingNodes (some memoryFilter) fullNodes = .ok matching ∧
      matchingNodes (some memoryFilter) fullNodes.reverse = .ok matching' ∧
      matching.length = 2 ∧ matching.Perm matching' ∧
      (aggregate .sum "memoryCapacity" matching).text =
        "170141183460469231731687303715884105727n" ∧
      applyOutcomes (.ofCheckName "") [⟨.warn, ⟨"sum(memoryCapacity) > 1e20", "full", none⟩⟩]
          matching =
        applyOutcomes (.ofCheckName "") [⟨.warn, ⟨"sum(memoryCapacity) > 1e20", "full", none⟩⟩]
          matching' := by
  have hperm : fullNodes.Perm fullNodes.reverse := (List.reverse_perm _).symm
  have hkept : matchingNodes (some memoryFilter) fullNodes =
      .ok [fullNode "first" .binarySI, fullNode "last" .decimalSI] := by decide +kernel
  rcases applyOutcomes_matching_perm hperm nonNegative_fullNodes (some memoryFilter)
      (.ofCheckName "") [⟨.warn, ⟨"sum(memoryCapacity) > 1e20", "full", none⟩⟩] with
    ⟨⟨e, he⟩, -⟩ | ⟨matching, matching', hm, hm', hmatching, happly⟩
  · rw [hkept] at he
    contradiction
  · refine ⟨hperm, nonNegative_fullNodes, matching, matching', hm, hm', ?_, hmatching, ?_, happly⟩
    · obtain rfl := Except.ok.inj (hkept.symm.trans hm)
      rfl
    · obtain rfl := Except.ok.inj (hkept.symm.trans hm)
      decide +kernel

end NodeFit
