import NodeFit.Filter
import NodeFit.Proofs.Except

/-!
# NodeFit.Proofs.Filter

What it takes to meet a filter.

`Filter.Meets` says it without an order of clauses: every required label is there, and
every bound is reached.  A node is accepted exactly when it meets the filter
(`accepts_eq_ok_true_iff`), and a list that can be filtered at all keeps exactly the
nodes that meet the filter, in their order (`matchingNodes_eq_ok_iff`).

A clause that does not hold keeps the later ones from being looked at, and a bound that
cannot be read is an error only when it is looked at.  Success is stated here, where the order
does not show; what the order decides is in `NodeFit.Proofs.Filter.Judgement`.
-/

namespace NodeFit

namespace Filter

/-- The property reaches a written bound. -/
def Reaches (node : ClusterNode) (p : NodeProperty) (written : String) : Prop :=
  ∃ bound amount : Quantity, Quantity.parse written = .ok bound ∧ node.get? p = some amount ∧
    bound.nano ≤ amount.nano

/-- The node carries every required label, with exactly the required value, and reaches
every bound that is not empty. -/
structure Meets (filter : Filter) (node : ClusterNode) : Prop where
  labels : ∀ selector, filter.selector = some selector → ∀ key value,
    selector.matchLabel.get? key = some value → node.labels.get? key = some value
  bounds : ∀ p written, filter.bound? p = some written → written ≠ "" → Reaches node p written

variable {filter : Filter} {node : ClusterNode}

/-- A bound that can be read is reached as it is written. -/
theorem reaches_iff {p : NodeProperty} {written : String} {bound : Quantity}
    (h : Quantity.parse written = .ok bound) :
    reaches node p bound = true ↔ Reaches node p written := by
  unfold reaches Reaches
  cases node.get? p with
  | none => simp
  | some amount => simp [h, Quantity.le]

/-! ## Clauses -/

/-- The labels of a filter are those of its selector, if it has one. -/
theorem mem_labels_iff {key value : String} :
    (key, value) ∈ filter.labels ↔
      ∃ selector, filter.selector = some selector ∧ selector.matchLabel.get? key = some value := by
  unfold labels
  cases filter.selector with
  | none => simp
  | some selector => simp [Dictionary.get?_eq_some_iff]

/-- The thresholds of a filter are its bounds, but for empty ones. -/
theorem mem_thresholds_iff {p : NodeProperty} {written : String} :
    (p, written) ∈ filter.thresholds ↔ filter.bound? p = some written ∧ written ≠ "" := by
  simp only [thresholds, List.mem_filterMap, Option.bind_eq_some_iff]
  constructor
  · intro h
    obtain ⟨q, -, bound, hbound, h⟩ := h
    split at h
    · contradiction
    · next hne =>
      obtain ⟨rfl, rfl⟩ := Prod.mk.inj (Option.some.inj h)
      exact ⟨hbound, by simpa using hne⟩
  · intro h
    obtain ⟨hbound, hne⟩ := h
    refine ⟨p, p.mem_all, written, hbound, if_neg ?_⟩
    simpa using hne

/-- Going through bounds succeeds when every one of them is reached. -/
theorem meets_eq_ok_true_iff {thresholds : List (NodeProperty × String)} :
    meets node thresholds = .ok true ↔ ∀ entry ∈ thresholds, Reaches node entry.1 entry.2 := by
  induction thresholds with
  | nil => simp [meets]
  | cons entry rest ih =>
      obtain ⟨p, written⟩ := entry
      rw [meets, List.forall_mem_cons]
      cases h : Quantity.parse written with
      | error e => simp [Reaches, h]
      | ok bound =>
          simp only
          rw [← reaches_iff h]
          split
          · next hr => rw [ih, hr]; simp
          · next hr => simp [hr]

/-- A node has all labels of a filter when it carries what the selector asks for. -/
theorem forall_hasLabel_iff :
    (∀ label ∈ filter.labels, node.hasLabel label = true) ↔
      ∀ selector, filter.selector = some selector → ∀ key value,
        selector.matchLabel.get? key = some value → node.labels.get? key = some value := by
  simp only [ClusterNode.hasLabel, beq_iff_eq]
  constructor
  · intro h selector hselector key value hvalue
    exact h (key, value) (mem_labels_iff.2 ⟨selector, hselector, hvalue⟩)
  · intro h entry hmem
    obtain ⟨key, value⟩ := entry
    obtain ⟨selector, hselector, hvalue⟩ := mem_labels_iff.1 hmem
    exact h selector hselector key value hvalue

/-- **A node is accepted exactly when it meets all clauses.** -/
theorem accepts_eq_ok_true_iff : filter.accepts node = .ok true ↔ filter.Meets node := by
  have hbounds : meets node filter.thresholds = .ok true ↔ ∀ p written,
      filter.bound? p = some written → written ≠ "" → Reaches node p written := by
    rw [meets_eq_ok_true_iff]
    constructor
    · intro h p written hbound hne
      exact h (p, written) (mem_thresholds_iff.2 ⟨hbound, hne⟩)
    · intro h entry hmem
      obtain ⟨p, written⟩ := entry
      obtain ⟨hbound, hne⟩ := mem_thresholds_iff.1 hmem
      exact h p written hbound hne
  unfold accepts
  split
  · next label hfind =>
    have hmissing : ¬node.hasLabel label = true := by simpa using List.find?_some hfind
    have hmem := List.mem_of_find?_eq_some hfind
    exact ⟨fun h => (nomatch h), fun h =>
      absurd (forall_hasLabel_iff.2 h.labels label hmem) hmissing⟩
  · next hfind =>
    have hlabels : ∀ label ∈ filter.labels, node.hasLabel label = true := by
      simpa using List.find?_eq_none.1 hfind
    rw [hbounds]
    exact ⟨fun h => ⟨forall_hasLabel_iff.1 hlabels, h⟩, fun h => h.bounds⟩

end Filter

/-! ## Lists of nodes -/

/-- The node meets all clauses of a filter, if there is one. -/
def ClusterNode.Meets (node : ClusterNode) (filter : Option Filter) : Prop :=
  ∀ f ∈ filter, f.Meets node

/-- A node passes when it meets the filter, and always where there is none. -/
theorem ClusterNode.passes_eq_ok_true_iff {node : ClusterNode} {filter : Option Filter} :
    node.passes filter = .ok true ↔ node.Meets filter := by
  cases filter with
  | none => simp [passes, Meets]
  | some f => simp [passes, Meets, Filter.accepts_eq_ok_true_iff]

instance (node : ClusterNode) (filter : Option Filter) : Decidable (node.Meets filter) :=
  match h : node.passes filter with
  | .ok true => isTrue (ClusterNode.passes_eq_ok_true_iff.1 h)
  | .ok false | .error _ => isFalse fun hm => by
      rw [ClusterNode.passes_eq_ok_true_iff.2 hm] at h
      nomatch h

/-- The judgement on a node says whether it meets the filter. -/
theorem ClusterNode.eq_decide_meets {node : ClusterNode} {filter : Option Filter} {b : Bool}
    (h : node.passes filter = .ok b) : b = decide (node.Meets filter) := by
  rw [Bool.eq_iff_iff, decide_eq_true_iff, ← passes_eq_ok_true_iff, h, Except.ok.injEq]

/-- **Filtering keeps the nodes that meet the filter**, in their order, unless one of all
the nodes cannot be judged. -/
theorem matchingNodes_eq_ok_iff {filter : Option Filter} {nodes matching : List ClusterNode} :
    matchingNodes filter nodes = .ok matching ↔
      (∀ node ∈ nodes, ∃ b, node.passes filter = .ok b) ∧
      matching = nodes.filter fun node => node.Meets filter := by
  induction nodes generalizing matching with
  | nil =>
      rw [matchingNodes, Except.ok.injEq]
      exact ⟨fun h => ⟨fun _ hn => (nomatch hn), h.symm⟩, fun h => h.2.symm⟩
  | cons node rest ih =>
      simp only [matchingNodes, bind_eq_ok_iff, List.forall_mem_cons, List.filter_cons]
      constructor
      · intro h
        obtain ⟨b, hnode, kept, hrest, hkept⟩ := h
        obtain ⟨hall, rfl⟩ := ih.1 hrest
        obtain rfl := ClusterNode.eq_decide_meets hnode
        exact ⟨⟨⟨_, hnode⟩, hall⟩, (Except.ok.inj hkept).symm⟩
      · intro h
        obtain ⟨⟨⟨b, hnode⟩, hall⟩, rfl⟩ := h
        obtain rfl := ClusterNode.eq_decide_meets hnode
        exact ⟨_, hnode, _, ih.2 ⟨hall, rfl⟩, rfl⟩

end NodeFit
