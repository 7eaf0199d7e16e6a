import NodeFit.Proofs.Conditional.Meaning
import NodeFit.Proofs.Filter
import NodeFit.Proofs.Quantity.Literal

/-!
# NodeFit.Proofs.Filter.Bound

Filters and conditionals mean the same by a property and a bound.

A node that a filter keeps reaches every bound of the filter, so that over the nodes that
are kept the least amount of the bounded property reaches the bound as well.  The
conditional that says so reads the bound through another door than the filter: it names
the property, cuts the text into words and may take the bound for an integer.

`NodeProperty.atLeast` is the text of that conditional, and `atLeast_bound` evaluates it as it
is written, from the text on.  It takes a node that the filter keeps; over no nodes the least
amount has no value, and the conditional is an error.
-/

namespace NodeFit

variable {p : NodeProperty} {written : String} {nodes matching : List ClusterNode}

/-! ## The conditional of a bound -/

/-- The conditional that the least amount of a property is at least a bound. -/
def NodeProperty.atLeast (p : NodeProperty) (written : String) : Conditional :=
  ⟨"min", p.name, .greaterOrEqual, .ofToken written.toList⟩

/-- The call for the least amount of a property is one word. -/
theorem NodeProperty.isWord_call (p : NodeProperty) :
    Text.IsWord ("min" ++ "(" ++ p.name ++ ")").toList := by
  have hnames : ∀ p ∈ all, p.name.toList.any Text.isBlank = false := by decide
  exact Conditional.isWord_call (Text.not_isBlank_of_any (by decide))
    (Text.not_isBlank_of_any (hnames p p.mem_all))

/-- A bound is read as the literal of the conditional. -/
theorem parse_atLeast (p : NodeProperty) (hword : Text.IsWord written.toList) :
    Conditional.parse ("min(" ++ p.name ++ ") >= " ++ written) = .ok (p.atLeast written) := by
  have htext : "min(" ++ p.name ++ ") >= " ++ written =
      "min" ++ "(" ++ p.name ++ ") " ++ ComparisonOperator.greaterOrEqual.symbol ++ " "
        ++ written := by
    simp [← String.toList_inj, ComparisonOperator.symbol]
  rw [htext, Conditional.parse_written _ (by decide) p.isWord_call hword]
  rfl

/-- The least amount reaches what every amount reaches. -/
theorem evaluate_atLeast {desired : Quantity}
    (hdesired : Quantity.parse (p.atLeast written).literal.text = .ok desired) (hne : nodes ≠ [])
    (hreach : ∀ node ∈ nodes, ∃ amount : Quantity, node.get? p = some amount ∧
      desired.nano ≤ amount.nano) :
    (p.atLeast written).evaluate nodes = .ok true := by
  have hreported : reportedAmounts p.name nodes ≠ [] := by
    obtain ⟨node, hnode⟩ := List.exists_mem_of_ne_nil nodes hne
    obtain ⟨amount, hamount, -⟩ := hreach node hnode
    rw [reportedAmounts_name]
    exact List.ne_nil_of_mem (List.mem_filterMap.2 ⟨node, hnode, hamount⟩)
  have hall : ComparisonOperator.greaterOrEqual.RelatesLeast
      ((reportedAmounts p.name nodes).map Quantity.nano) desired.nano := by
    rw [reportedAmounts_name]
    refine List.forall_mem_map.2 fun amount hmem => ?_
    obtain ⟨node, hnode, hamount⟩ := List.mem_filterMap.1 hmem
    obtain ⟨amount', hamount', hle⟩ := hreach node hnode
    obtain rfl : amount = amount' := Option.some.inj (hamount.symm.trans hamount')
    exact hle
  have hevaluate := Conditional.evaluate_min hdesired hreported .greaterOrEqual
  rwa [decide_eq_true hall] at hevaluate

/-! ## The bound of a filter -/

/-- **A filter and a conditional mean the same by a property and a bound.**  Over the nodes
that a filter keeps, if there are any, the least amount of a bounded property is at least the
bound; and read as a literal, the bound is the amount that it is in the filter. -/
theorem atLeast_bound {filter : Filter} (hbound : filter.bound? p = some written)
    (hwritten : written ≠ "") (hmatching : matchingNodes (some filter) nodes = .ok matching)
    (hne : matching ≠ []) :
    evaluateConditional ("min(" ++ p.name ++ ") >= " ++ written) matching = .ok true ∧
    ∃ (c : Conditional) (bound desired : Quantity),
      Conditional.parse ("min(" ++ p.name ++ ") >= " ++ written) = .ok c ∧
      c.literal = .ofToken written.toList ∧
      Quantity.parse written = .ok bound ∧ Quantity.parse c.literal.text = .ok desired ∧
      desired.nano = bound.nano := by
  have hmeets : ∀ node ∈ matching, Filter.Reaches node p written := by
    obtain ⟨-, rfl⟩ := matchingNodes_eq_ok_iff.1 hmatching
    intro node hnode
    have hm : node.Meets (some filter) := by simpa using (List.mem_filter.1 hnode).2
    exact (hm filter rfl).bounds p written hbound hwritten
  -- The bound can be read, since some node was measured by it.
  obtain ⟨node, hnode⟩ := List.exists_mem_of_ne_nil matching hne
  obtain ⟨bound, -, hparse, -, -⟩ := hmeets node hnode
  obtain ⟨desired, hdesired, hnano⟩ := Quantity.exists_parse_literal hparse
  have hconditional := parse_atLeast p (Quantity.isWord_of_parse hparse)
  have hreach : ∀ node ∈ matching, ∃ amount : Quantity, node.get? p = some amount ∧
      desired.nano ≤ amount.nano := by
    intro node hnode
    obtain ⟨bound', amount, hparse', hamount, hle⟩ := hmeets node hnode
    obtain rfl : bound = bound' := Except.ok.inj (hparse.symm.trans hparse')
    exact ⟨amount, hamount, hnano ▸ hle⟩
  have hevaluate := evaluate_atLeast hdesired hne hreach
  refine ⟨?_, _, bound, desired, hconditional, rfl, hparse, hdesired, hnano⟩
  rw [evaluateConditional_of_parse hconditional, hevaluate]
  rfl

/-- A node of four processors with two gibibytes to hand out. -/
def fourProcessors : ClusterNode :=
  ((ClusterNode.ofName "four").withAmount ⟨.cpu, .capacity⟩
    (.clamp 4000000000 .decimalSI)).withAmount ⟨.memory, .allocatable⟩
    (.clamp 2147483648000000000 .binarySI)

/-- A node of eight processors of which no memory is known. -/
def eightProcessors : ClusterNode :=
  (ClusterNode.ofName "eight").withAmount ⟨.cpu, .capacity⟩ (.clamp 8000000000 .decimalSI)

/-- Nodes of four processors, with a bound on memory besides. -/
def processorFilter : Filter :=
  (Filter.empty.withBound ⟨.cpu, .capacity⟩ "+0004").withBound ⟨.memory, .allocatable⟩ "1.5Gi"

/-- The bound is no integer as it would be written, and the other bound leaves out a node. -/
theorem atLeast_bound_signed :
    matchingNodes (some processorFilter) [eightProcessors, fourProcessors] =
      .ok [fourProcessors] ∧
    evaluateConditional "min(cpuCapacity) >= +0004" [fourProcessors] = .ok true ∧
    ∃ (c : Conditional) (bound desired : Quantity),
      Conditional.parse "min(cpuCapacity) >= +0004" = .ok c ∧ c.literal = .ofToken "+0004".toList ∧
      Quantity.parse "+0004" = .ok bound ∧ Quantity.parse c.literal.text = .ok desired ∧
      desired.nano = bound.nano := by
  have hmatching : matchingNodes (some processorFilter) [eightProcessors, fourProcessors] =
      .ok [fourProcessors] := by decide +kernel
  have hbound : processorFilter.bound? ⟨.cpu, .capacity⟩ = some "+0004" := by decide
  have htext : "min(" ++ NodeProperty.name ⟨.cpu, .capacity⟩ ++ ") >= " ++ "+0004" =
      "min(cpuCapacity) >= +0004" := by decide
  have h := atLeast_bound hbound (by decide) hmatching (by decide)
  rw [htext] at h
  exact ⟨hmatching, h⟩

end NodeFit
