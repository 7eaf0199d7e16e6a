import Mathlib.Algebra.BigOperators.Group.List.Basic
import Mathlib.Algebra.Order.BigOperators.Group.List
import Mathlib.Algebra.Ring.Int.Defs
import NodeFit.Aggregate

/-!
# NodeFit.Proofs.Aggregate

What aggregates come to.

An aggregate is a walk over the amounts that nodes report.  What it ends with is described
here without the walk:

* the least amount is the first of those that are least (`firstLeast_of_least?`), and the
  greatest the last of those that are greatest (`lastGreatest_of_greatest?`); the two differ
  because of what happens when two amounts are equal, and equal amounts may be printed
  differently;
* a running total can only stop at the upper end of the range while no amount is negative, so
  that it is the sum or that end (`sum_nano`);
* none of this depends on the order of the nodes as far as the amount goes
  (`aggregate_perm`).  The suffix family of an aggregate does.

With negative amounts a total can stop at either end and come back, which is why the sum is
stated as a running total first (`sum_nano_eq_runningTotal`).
-/

namespace NodeFit

namespace Quantity

/-! ## Extremes -/

/-- Picking one of two amounts time and again ends with an amount that every earlier one gives
way to and that stands against every later one. -/
theorem foldl_pick_split {pick : Quantity → Quantity → Quantity}
    (yields stands : Quantity → Quantity → Prop)
    (htrans : ∀ {q r s}, yields q r → yields r s → yields q s)
    (hkept : ∀ {q r s}, stands q r → yields q s → yields r s)
    (hpick : ∀ q r, pick q r = q ∧ stands q r ∨ pick q r = r ∧ yields q r)
    (q : Quantity) (rest : List Quantity) :
    ∃ before after, q :: rest = before ++ rest.foldl pick q :: after ∧
      (∀ r ∈ before, yields r (rest.foldl pick q)) ∧
      ∀ r ∈ after, stands (rest.foldl pick q) r := by
  induction rest generalizing q with
  | nil => exact ⟨[], [], rfl, by simp, by simp⟩
  | cons s rest ih =>
      obtain ⟨before, after, hsplit, hbefore, hafter⟩ := ih (pick q s)
      rw [List.foldl_cons]
      generalize rest.foldl pick (pick q s) = picked at *
      rcases hpick q s with ⟨heq, hqs⟩ | ⟨heq, hqs⟩
      -- The next amount is dropped: it stands behind the one that is picked in the end, or that
      -- one comes later and the dropped amount gives way to it as well.
      · rw [heq] at hsplit
        cases before with
        | nil =>
            obtain ⟨rfl, rfl⟩ := List.cons.inj hsplit
            exact ⟨[], s :: rest, rfl, by simp, by simpa using ⟨hqs, hafter⟩⟩
        | cons r before =>
            obtain ⟨rfl, rfl⟩ := List.cons.inj hsplit
            have hq := hbefore q List.mem_cons_self
            refine ⟨q :: s :: before, after, rfl, ?_, hafter⟩
            grind
      · rw [heq] at hsplit
        refine ⟨q :: before, after, by rw [hsplit]; rfl, ?_, hafter⟩
        cases before with
        | nil =>
            obtain ⟨rfl, rfl⟩ := List.cons.inj hsplit
            simpa using hqs
        | cons r before =>
            obtain ⟨rfl, rfl⟩ := List.cons.inj hsplit
            have hs := hbefore s List.mem_cons_self
            grind

/-- The first least of some amounts: all before it are greater, and none behind it is less. -/
def FirstLeast (q : Quantity) (amounts : List Quantity) : Prop :=
  ∃ before after, amounts = before ++ q :: after ∧
    (∀ r ∈ before, q.nano < r.nano) ∧ ∀ r ∈ after, q.nano ≤ r.nano

/-- The last greatest of some amounts: none before it is greater, and all behind it are less. -/
def LastGreatest (q : Quantity) (amounts : List Quantity) : Prop :=
  ∃ before after, amounts = before ++ q :: after ∧
    (∀ r ∈ before, r.nano ≤ q.nano) ∧ ∀ r ∈ after, r.nano < q.nano

variable {amounts : List Quantity} {q : Quantity}

/-- **The least amount** is the first of those that are least. -/
theorem firstLeast_of_least? (h : least? amounts = some q) : FirstLeast q amounts := by
  cases amounts with
  | nil => simp [least?] at h
  | cons first rest =>
      rw [← Option.some.inj h]
      refine foldl_pick_split (fun q r => r.nano < q.nano) (fun q r => q.nano ≤ r.nano)
        (fun hqr hrs => Int.lt_trans hrs hqr) (fun hqr hsq => Int.lt_of_lt_of_le hsq hqr)
        (fun q r => ?_) first rest
      by_cases hle : q.nano ≤ r.nano <;> simp [le, hle]
      omega

/-- **The greatest amount** is the last of those that are greatest. -/
theorem lastGreatest_of_greatest? (h : greatest? amounts = some q) : LastGreatest q amounts := by
  cases amounts with
  | nil => simp [greatest?] at h
  | cons first rest =>
      rw [← Option.some.inj h]
      refine foldl_pick_split (fun q r => q.nano ≤ r.nano) (fun q r => r.nano < q.nano)
        Int.le_trans (fun hrq hqs => Int.le_trans (Int.le_of_lt hrq) hqs)
        (fun q r => ?_) first rest
      by_cases hle : q.nano ≤ r.nano <;> simp [le, hle]
      omega

/-- The first least amount is one of the amounts and at most each of them. -/
theorem FirstLeast.spec (h : q.FirstLeast amounts) :
    q ∈ amounts ∧ ∀ r ∈ amounts, q.nano ≤ r.nano := by
  obtain ⟨before, after, rfl, hbefore, hafter⟩ := h
  grind

/-- The last greatest amount is one of the amounts and at least each of them. -/
theorem LastGreatest.spec (h : q.LastGreatest amounts) :
    q ∈ amounts ∧ ∀ r ∈ amounts, r.nano ≤ q.nano := by
  obtain ⟨before, after, rfl, hbefore, hafter⟩ := h
  grind

/-- The least of some amounts is one of them, and at most each of them. -/
theorem least?_spec (h : least? amounts = some q) :
    q ∈ amounts ∧ ∀ r ∈ amounts, q.nano ≤ r.nano := (firstLeast_of_least? h).spec

/-- The greatest of some amounts is one of them, and at least each of them. -/
theorem greatest?_spec (h : greatest? amounts = some q) :
    q ∈ amounts ∧ ∀ r ∈ amounts, r.nano ≤ q.nano := (lastGreatest_of_greatest? h).spec

theorem least?_eq_none_iff : least? amounts = none ↔ amounts = [] := by
  cases amounts <;> simp [least?]

theorem greatest?_eq_none_iff : greatest? amounts = none ↔ amounts = [] := by
  cases amounts <;> simp [greatest?]

/-! ## The running total -/

/-- Clamping moves an amount to the nearer end of the range if it lies beyond. -/
theorem clamp_nano (nano : Int) (format : QuantityFormat) :
    (clamp nano format).nano = max (-(limit : Int)) (min nano (limit - 1)) := by
  have hlimit : 0 < limit := by decide
  unfold clamp
  split
  · change -(limit : Int) = _
    omega
  · split
    · change nano = _
      omega
    · change (limit : Int) - 1 = _
      omega

/-- The running total of some numbers from a start, which stops at an end of the range of
amounts instead of leaving it. -/
def runningTotal (start : Int) (numbers : List Int) : Int :=
  numbers.foldl (fun total n => max (-(limit : Int)) (min (total + n) (limit - 1))) start

/-- The amount of a sum is the running total of the amounts from zero. -/
theorem sum_nano_eq_runningTotal (amounts : List Quantity) :
    (sum amounts).nano = runningTotal 0 (amounts.map nano) := by
  rw [runningTotal, List.foldl_map, sum]
  exact (List.foldl_hom nano fun total q => (clamp_nano _ _).symm).symm

/-- Without negative numbers, a total stops once it has reached the end of the range. -/
theorem runningTotal_of_nonneg {start : Int} {numbers : List Int} (hstart : 0 ≤ start)
    (hlt : start < limit) (h : ∀ n ∈ numbers, 0 ≤ n) :
    runningTotal start numbers = min (start + numbers.sum) (limit - 1) := by
  induction numbers generalizing start with
  | nil =>
      simp only [runningTotal, List.foldl_nil, List.sum_nil]
      omega
  | cons n rest ih =>
      obtain ⟨hn, hrest⟩ := List.forall_mem_cons.1 h
      have hsum : 0 ≤ rest.sum := List.sum_nonneg hrest
      have hnext : max (-(limit : Int)) (min (start + n) (limit - 1)) =
          min (start + n) (limit - 1) := by
        omega
      rw [runningTotal, List.foldl_cons, hnext, ← runningTotal, ih (by omega) (by omega) hrest,
        List.sum_cons]
      omega

/-- **The sum of amounts of which none is negative** is exact up to the end of the range. -/
theorem sum_nano (h : ∀ q ∈ amounts, 0 ≤ q.nano) :
    (sum amounts).nano = min (amounts.map nano).sum (limit - 1) := by
  rw [sum_nano_eq_runningTotal,
    runningTotal_of_nonneg (by decide) (by decide) (List.forall_mem_map.2 h), Int.zero_add]

end Quantity

/-! ## Amounts whatever their families -/

/-- Two aggregates that differ in nothing but the suffix family of their amounts. -/
inductive AggregateValue.SameAmount : AggregateValue → AggregateValue → Prop where
  | count (nodes : Nat) : SameAmount (.count nodes) (.count nodes)
  | quantity {q r : Quantity} : q.nano = r.nano → SameAmount (.quantity q) (.quantity r)
  | noValue : SameAmount .noValue .noValue

/-- An extreme amount is the same whatever the order of the amounts and their families. -/
theorem sameAmount_of_extreme {extreme : List Quantity → Option Quantity}
    {before : Int → Int → Prop} (hantisymm : ∀ {m n}, before m n → before n m → m = n)
    (hnone : ∀ {amounts}, extreme amounts = none ↔ amounts = [])
    (hsome : ∀ {amounts q}, extreme amounts = some q →
      q ∈ amounts ∧ ∀ r ∈ amounts, before q.nano r.nano)
    {amounts amounts' : List Quantity}
    (h : (amounts.map Quantity.nano).Perm (amounts'.map Quantity.nano)) :
    ((extreme amounts).elim .noValue .quantity : AggregateValue).SameAmount
      ((extreme amounts').elim .noValue .quantity) := by
  cases hq : extreme amounts with
  | none =>
      obtain rfl := hnone.1 hq
      rw [List.map_eq_nil_iff.1 h.nil_eq.symm, hq]
      exact .noValue
  | some q =>
      obtain ⟨hmem, hbefore⟩ := hsome hq
      cases hr : extreme amounts' with
      | none =>
          rw [hnone.1 hr] at h
          rw [List.map_eq_nil_iff.1 h.eq_nil] at hmem
          contradiction
      | some r =>
          obtain ⟨hmem', hbefore'⟩ := hsome hr
          obtain ⟨r', hr', hrnano⟩ := List.mem_map.1 (h.mem_iff.2 (List.mem_map_of_mem hmem'))
          obtain ⟨q', hq', hqnano⟩ := List.mem_map.1 (h.mem_iff.1 (List.mem_map_of_mem hmem))
          exact .quantity (hantisymm (hrnano ▸ hbefore r' hr') (hqnano ▸ hbefore' q' hq'))

/-! ## Nodes in any order -/

variable {property : String} {nodes nodes' : List ClusterNode}

/-- No node reports a negative amount. -/
def NonNegative (nodes : List ClusterNode) : Prop :=
  ∀ node ∈ nodes, ∀ (p : NodeProperty) (q : Quantity), node.get? p = some q → 0 ≤ q.nano

/-- The reported amounts are those that some node finds under the name of the property. -/
theorem mem_reportedAmounts_iff {q : Quantity} :
    q ∈ reportedAmounts property nodes ↔ ∃ node ∈ nodes, node.lookup property = some q :=
  List.mem_filterMap

/-- What a node reports under a name is the amount of the property of that name. -/
theorem lookup_eq_some_iff {node : ClusterNode} {q : Quantity} :
    node.lookup property = some q ↔
      ∃ p, NodeProperty.ofName? property = some p ∧ node.get? p = some q :=
  Option.bind_eq_some_iff

/-- **Aggregates do not depend on the order of the nodes**, up to the family of an amount,
where no node reports a negative amount. -/
theorem aggregate_perm (function : AggregateFunction) (property : String)
    (h : nodes.Perm nodes') (hnonneg : NonNegative nodes) :
    (aggregate function property nodes).SameAmount (aggregate function property nodes') := by
  have hamounts : (reportedAmounts property nodes).Perm (reportedAmounts property nodes') :=
    h.filterMap _
  cases function with
  | count =>
      simp only [aggregate, h.length_eq]
      exact .count _
  | min =>
      exact sameAmount_of_extreme Int.le_antisymm Quantity.least?_eq_none_iff
        Quantity.least?_spec (hamounts.map _)
  | max =>
      exact sameAmount_of_extreme (fun hmn hnm => Int.le_antisymm hnm hmn)
        Quantity.greatest?_eq_none_iff Quantity.greatest?_spec (hamounts.map _)
  | sum =>
      have hq : ∀ q ∈ reportedAmounts property nodes, 0 ≤ q.nano := by
        intro q hq
        obtain ⟨node, hnode, hlookup⟩ := mem_reportedAmounts_iff.1 hq
        obtain ⟨p, -, hp⟩ := lookup_eq_some_iff.1 hlookup
        exact hnonneg node hnode p q hp
      have hq' : ∀ q ∈ reportedAmounts property nodes', 0 ≤ q.nano :=
        fun q hmem => hq q (hamounts.mem_iff.2 hmem)
      refine .quantity ?_
      rw [Quantity.sum_nano hq, Quantity.sum_nano hq', (hamounts.map Quantity.nano).sum_eq]

/-! ## Functions -/

theorem AggregateFunction.ofName?_name (function : AggregateFunction) :
    ofName? function.name = some function := by
  cases function <;> decide

/-- A number of nodes stops at the greatest one. -/
theorem le_maxCount {function : AggregateFunction} {n : Nat}
    (h : aggregate function property nodes = .count n) : n ≤ AggregateValue.maxCount := by
  cases function with
  | count =>
      obtain rfl := AggregateValue.count.inj h
      exact Nat.min_le_right _ _
  | min =>
      simp only [aggregate] at h
      cases hleast : Quantity.least? (reportedAmounts property nodes) <;> simp [hleast] at h
  | max =>
      simp only [aggregate] at h
      cases hgreatest : Quantity.greatest? (reportedAmounts property nodes) <;>
        simp [hgreatest] at h
  | sum => contradiction

end NodeFit
