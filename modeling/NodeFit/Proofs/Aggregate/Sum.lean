import Mathlib.Data.List.Infix
import NodeFit.Proofs.Aggregate

/-!
# NodeFit.Proofs.Aggregate.Sum

Sums of what nodes report.

A running total that stays in range is the sum (`Quantity.runningTotal_of_prefixes`), and while no
amount is negative it keeps the suffix family of the first amount that makes it more than zero
(`Quantity.foldl_add_format`).  So a sum is exact until it reaches the end of the range, whatever
the order of the nodes, and nodes that report nothing do not touch it (`aggregate_sum`).

The family is the one thing that the order decides, and only through the amounts that are not
zero: a total of zero takes on the family of whatever comes next.
-/

namespace NodeFit

namespace Quantity

/-! ## The running total -/

/-- A total of which no part leaves the range does not stop. -/
theorem runningTotal_of_prefixes {start : Int} {numbers : List Int}
    (h : ∀ front, front <+: numbers →
      -(limit : Int) ≤ start + front.sum ∧ start + front.sum < limit) :
    runningTotal start numbers = start + numbers.sum := by
  induction numbers generalizing start with
  | nil => simp [runningTotal]
  | cons n rest ih =>
      have hfirst : -(limit : Int) ≤ start + n ∧ start + n < limit := by
        simpa using h [n] (by simp)
      have hnext : max (-(limit : Int)) (min (start + n) (limit - 1)) = start + n := by omega
      have hrest : ∀ front, front <+: rest →
          -(limit : Int) ≤ start + n + front.sum ∧ start + n + front.sum < limit := by
        intro front hfront
        have hlonger := h (n :: front) (List.cons_prefix_cons.2 ⟨rfl, hfront⟩)
        rwa [List.sum_cons, ← Int.add_assoc] at hlonger
      rw [runningTotal, List.foldl_cons, hnext, ← runningTotal, ih hrest, List.sum_cons,
        Int.add_assoc]

/-! ## The suffix family -/

theorem clamp_format (nano : Int) (format : QuantityFormat) :
    (clamp nano format).format = format := by
  unfold clamp
  split
  · rfl
  · split <;> rfl

/-- The suffix family that a total takes on from amounts: that of the first that is not zero, or
else of the last. -/
def takenFormat (start : QuantityFormat) (amounts : List Quantity) : QuantityFormat :=
  ((amounts.find? fun q => !q.isZero).or amounts.getLast?).elim start format

/-- A total that is more than zero stays so, and keeps its family. -/
theorem add_of_pos {total q : Quantity} (htotal : 0 < total.nano) (hq : 0 ≤ q.nano) :
    0 < (total.add q).nano ∧ (total.add q).format = total.format := by
  have hlimit : 1 < limit := by decide
  have hzero : total.isZero = false := beq_false_of_ne (by omega)
  rw [add, clamp_nano, clamp_format, hzero]
  exact ⟨by omega, rfl⟩

/-- A total of zero becomes the next amount. -/
theorem add_of_zero {total : Quantity} (htotal : total.nano = 0) (q : Quantity) :
    (total.add q).nano = q.nano ∧ (total.add q).format = q.format := by
  have hlower := q.le_nano
  have hupper := q.nano_lt
  have hzero : total.isZero = true := beq_iff_eq.2 htotal
  rw [add, clamp_nano, clamp_format, hzero]
  exact ⟨by omega, rfl⟩

/-- Once a total is more than zero, no further amount changes its family. -/
theorem foldl_add_format_of_pos {total : Quantity} {amounts : List Quantity}
    (htotal : 0 < total.nano) (h : ∀ q ∈ amounts, 0 ≤ q.nano) :
    (amounts.foldl add total).format = total.format := by
  induction amounts generalizing total with
  | nil => rfl
  | cons q rest ih =>
      obtain ⟨hq, hrest⟩ := List.forall_mem_cons.1 h
      obtain ⟨hpos, hformat⟩ := add_of_pos htotal hq
      rw [List.foldl_cons, ih hpos hrest, hformat]

/-- **A total of zero takes on the family** of the first amount that is not zero, or else of the
last, as long as no amount is negative. -/
theorem foldl_add_format {total : Quantity} {amounts : List Quantity} (htotal : total.nano = 0)
    (h : ∀ q ∈ amounts, 0 ≤ q.nano) :
    (amounts.foldl add total).format = takenFormat total.format amounts := by
  induction amounts generalizing total with
  | nil => rfl
  | cons q rest ih =>
      obtain ⟨hq, hrest⟩ := List.forall_mem_cons.1 h
      obtain ⟨hnano, hformat⟩ := add_of_zero htotal q
      rw [List.foldl_cons]
      by_cases hzero : q.nano = 0
      · have hskip : q.isZero = true := beq_iff_eq.2 hzero
        rw [ih (hnano.trans hzero) hrest, hformat, takenFormat, takenFormat,
          List.find?_cons_of_neg (by simp [hskip]), List.getLast?_cons]
        cases rest.find? fun q => !q.isZero <;> cases rest.getLast? <;> rfl
      · have htake : q.isZero = false := beq_false_of_ne hzero
        rw [foldl_add_format_of_pos (by omega) hrest, hformat, takenFormat,
          List.find?_cons_of_pos (by simp [htake])]
        rfl

end Quantity

/-! ## Nodes -/

/-- Whether a node reports the property of a name. -/
def ClusterNode.reports (node : ClusterNode) (property : String) : Bool :=
  (node.lookup property).isSome

/-- Only nodes that report the property have a say. -/
theorem reportedAmounts_filter (property : String) (nodes : List ClusterNode) :
    reportedAmounts property (nodes.filter (·.reports property)) =
      reportedAmounts property nodes := by
  induction nodes with
  | nil => rfl
  | cons node rest ih =>
      cases h : node.lookup property <;>
        simp_all [reportedAmounts, ClusterNode.reports]

/-- **A sum is exact until it reaches the end of the range.**  It is the sum of the amounts that
the nodes report, as long as no part of it, in their order, leaves the range.  If no amount is
negative, it is the sum or the end of the range, for any order of the nodes, in the suffix family
of the first amount that is not zero, or else of the last, or else the decimal one.  Nodes that
report nothing make no difference. -/
theorem aggregate_sum (property : String) (nodes : List ClusterNode) :
    let amounts := reportedAmounts property nodes
    ∃ total : Quantity, aggregate .sum property nodes = .quantity total ∧
      ((∀ front, front <+: amounts → -(Quantity.limit : Int) ≤ (front.map Quantity.nano).sum ∧
          (front.map Quantity.nano).sum < Quantity.limit) →
        total.nano = (amounts.map Quantity.nano).sum) ∧
      ((∀ q ∈ amounts, 0 ≤ q.nano) →
        total.nano = min (amounts.map Quantity.nano).sum (Quantity.limit - 1) ∧
        total.format = Quantity.takenFormat .decimalSI amounts ∧
        ∀ others : List ClusterNode, others.Perm nodes → ∃ total' : Quantity,
          aggregate .sum property others = .quantity total' ∧ total'.nano = total.nano) ∧
      ∀ others : List ClusterNode,
        others.filter (·.reports property) = nodes.filter (·.reports property) →
        aggregate .sum property others = aggregate .sum property nodes := by
  intro amounts
  refine ⟨Quantity.sum amounts, rfl, fun hrange => ?_, fun hnonneg => ?_, fun others hsame => ?_⟩
  · rw [Quantity.sum_nano_eq_runningTotal, Quantity.runningTotal_of_prefixes, Int.zero_add]
    intro front hfront
    obtain ⟨first, hfirst, rfl⟩ := List.prefix_map_iff.1 hfront
    rw [Int.zero_add]
    exact hrange first hfirst
  · refine ⟨Quantity.sum_nano hnonneg, Quantity.foldl_add_format rfl hnonneg,
      fun others hperm => ⟨_, rfl, ?_⟩⟩
    have hamounts : (reportedAmounts property others).Perm amounts := hperm.filterMap _
    have hothers : ∀ q ∈ reportedAmounts property others, 0 ≤ q.nano := fun q hq =>
      hnonneg q (hamounts.mem_iff.1 hq)
    rw [Quantity.sum_nano hothers, Quantity.sum_nano hnonneg, (hamounts.map Quantity.nano).sum_eq]
  · have hamounts : reportedAmounts property others = reportedAmounts property nodes := by
      rw [← reportedAmounts_filter, hsame, reportedAmounts_filter]
    simp only [aggregate, hamounts]

/-- A node of which only its memory is known. -/
def nodeOfMemory (memory : Quantity) : ClusterNode :=
  (ClusterNode.ofName "").withAmount ⟨.memory, .capacity⟩ memory

/-- A node without memory, one that does not report any, and two of which the memory is too much
for one amount. -/
def largeNodes : List ClusterNode :=
  [nodeOfMemory (.clamp 0 .binarySI), .ofName "bare",
    nodeOfMemory (.clamp (2 ^ 126) .decimalExponent), nodeOfMemory (.clamp (2 ^ 126) .decimalSI)]

/-- The sum stops at the end of the range from either side, in the family of the first node with any
memory; without the last node it is exact. -/
theorem aggregate_sum_large :
    (∃ total, aggregate .sum "memoryCapacity" largeNodes = .quantity total ∧
      total.nano = 2 ^ 127 - 1 ∧ total.format = .decimalExponent ∧
      ∃ total', aggregate .sum "memoryCapacity" largeNodes.reverse = .quantity total' ∧
        total'.nano = total.nano) ∧
    (∃ total, aggregate .sum "memoryCapacity" (largeNodes.take 3) = .quantity total ∧
      total.nano = 2 ^ 126) ∧
    aggregate .sum "memoryCapacity" (largeNodes.eraseIdx 1) =
      aggregate .sum "memoryCapacity" largeNodes := by
  obtain ⟨total, htotal, -, hnonneg, hsilent⟩ := aggregate_sum "memoryCapacity" largeNodes
  obtain ⟨short, hshort, hexact, -⟩ := aggregate_sum "memoryCapacity" (largeNodes.take 3)
  obtain ⟨hnano, hformat, hperm⟩ := hnonneg (by decide +kernel)
  refine ⟨⟨total, htotal, hnano.trans ?_, hformat.trans ?_, hperm _ (List.reverse_perm _)⟩,
    ⟨short, hshort, (hexact ?_).trans ?_⟩, hsilent _ ?_⟩
  · decide +kernel
  · decide +kernel
  · intro front hfront
    have hall : ∀ front ∈ (reportedAmounts "memoryCapacity" (largeNodes.take 3)).inits,
        -(Quantity.limit : Int) ≤ (front.map Quantity.nano).sum ∧
          (front.map Quantity.nano).sum < Quantity.limit := by decide +kernel
    exact hall front ((List.mem_inits _ _).2 hfront)
  · decide +kernel
  · decide +kernel

end NodeFit
