import NodeFit.Proofs.Filter.Bound

/-!
# NodeFit.Proofs.Filter.Judgement

How a filter judges nodes: it keeps a node, leaves it out, or gives up.

A node faults a filter by a label that it lacks, or by a bound that cannot be read and that no
earlier bound keeps it from (`Filter.Faults`).  The clauses of a filter stand in a strict order,
of keys and of properties, so that the first clause that decides is the least one.  A list can be
filtered when none of its nodes faults the filter; otherwise the first that does is reported
(`matchingNodes_judges`).

The fault is described by orders rather than by positions in a list: the least key that is
lacking, and the first property whose bound cannot be read while the node reaches all bounds
before it.  `exists_split_iff_of_pairwise` passes from the one to the other.  Three answers for
one node follow, of which `accepts_eq_ok_true_iff` had the first:

* it is kept when it carries all labels and reaches all bounds,
* it is an error when it faults the filter (`accepts_eq_error_iff`),
* it is left out otherwise, which takes all labels and a bound that is not reached.
-/

namespace NodeFit

/-- An entry of a list in strict order has all smaller entries in front of it. -/
theorem exists_split_iff_of_pairwise {α : Type} {before : α → α → Prop} {P : α → Prop}
    (hasymm : ∀ {a b}, before a b → ¬before b a) {entries : List α}
    (h : entries.Pairwise before) {a : α} :
    (∃ front rest, entries = front ++ a :: rest ∧ ∀ b ∈ front, P b) ↔
      a ∈ entries ∧ ∀ b ∈ entries, before b a → P b := by
  constructor
  · rintro ⟨front, rest, rfl, hfront⟩
    refine ⟨by simp, fun b hb hba => ?_⟩
    obtain ⟨-, hrest, -⟩ := List.pairwise_append.1 h
    obtain hb | rfl | hb : b ∈ front ∨ b = a ∨ b ∈ rest := by simpa using hb
    · exact hfront b hb
    · exact absurd hba (hasymm hba)
    · exact absurd hba (hasymm ((List.pairwise_cons.1 hrest).1 b hb))
  · rintro ⟨ha, hsmaller⟩
    obtain ⟨front, rest, rfl⟩ := List.append_of_mem ha
    obtain ⟨-, -, hacross⟩ := List.pairwise_append.1 h
    exact ⟨front, rest, rfl, fun b hb =>
      hsmaller b (List.mem_append_left _ hb) (hacross b hb a List.mem_cons_self)⟩

/-- One property comes before another where filters look at bounds. -/
def NodeProperty.Precedes (p q : NodeProperty) : Prop := all.idxOf p < all.idxOf q

instance (p q : NodeProperty) : Decidable (p.Precedes q) :=
  inferInstanceAs (Decidable (NodeProperty.all.idxOf p < NodeProperty.all.idxOf q))

namespace Filter

/-! ## Clauses in their order -/

/-- The filter requires a label. -/
def Requires (filter : Filter) (key value : String) : Prop :=
  ∃ selector, filter.selector = some selector ∧ selector.matchLabel.get? key = some value

/-- The filter bounds a property; an empty bound is none. -/
def Bounds (filter : Filter) (p : NodeProperty) (written : String) : Prop :=
  filter.bound? p = some written ∧ written ≠ ""

/-- The node carries all labels that the filter requires. -/
def Carried (filter : Filter) (node : ClusterNode) : Prop :=
  ∀ key value, filter.Requires key value → node.labels.get? key = some value

/-- The node reaches all bounds of the filter. -/
def ReachesBounds (filter : Filter) (node : ClusterNode) : Prop :=
  ∀ p written, filter.Bounds p written → Reaches node p written

/-- The node reaches all bounds before that of a property, which cannot be read. -/
def Stuck (filter : Filter) (node : ClusterNode) (p : NodeProperty) (error : QuantityError) :
    Prop :=
  ∃ written, filter.Bounds p written ∧
    (∀ q other, q.Precedes p → filter.Bounds q other → Reaches node q other) ∧
    Quantity.parse written = .error error

/-- Why a node cannot be judged: by the least key of the labels that it lacks, or else by the
first bound that cannot be read. -/
inductive Faults (filter : Filter) (node : ClusterNode) : FilterError → Prop where
  | label {key value : String} : filter.Requires key value →
      node.labels.get? key ≠ some value →
      (∀ key' value', filter.Requires key' value' → node.labels.get? key' ≠ some value' →
        key ≤ key') →
      filter.Faults node (.label key)
  | bound {p : NodeProperty} {error : QuantityError} : filter.Carried node →
      filter.Stuck node p error → filter.Faults node (.bound p error)

variable {filter : Filter} {node : ClusterNode}

/-- The labels of a filter stand in ascending order of their keys. -/
theorem pairwise_labels (filter : Filter) : filter.labels.Pairwise fun a b => a.1 < b.1 := by
  unfold labels
  cases filter.selector with
  | none => exact .nil
  | some selector => exact selector.matchLabel.sorted

/-- The thresholds of a filter stand in the order of the properties. -/
theorem pairwise_thresholds (filter : Filter) :
    filter.thresholds.Pairwise fun a b => a.1.Precedes b.1 := by
  have hall : NodeProperty.all.Pairwise NodeProperty.Precedes := by decide
  refine List.Pairwise.filterMap _ (fun p q hpq entry hentry other hother => ?_) hall
  obtain ⟨written, -, hwritten⟩ := Option.bind_eq_some_iff.1 hentry
  obtain ⟨written', -, hwritten'⟩ := Option.bind_eq_some_iff.1 hother
  grind

/-! ## Bounds -/

/-- Going through bounds fails at the first that cannot be read, after bounds that are all
reached. -/
theorem meets_eq_error_iff {thresholds : List (NodeProperty × String)} {e : FilterError} :
    meets node thresholds = .error e ↔
      ∃ p written error, e = .bound p error ∧ Quantity.parse written = .error error ∧
        ∃ front rest, thresholds = front ++ (p, written) :: rest ∧
          ∀ entry ∈ front, Reaches node entry.1 entry.2 := by
  induction thresholds with
  | nil => simp [meets]
  | cons entry rest ih =>
      obtain ⟨p, written⟩ := entry
      simp only [exists_split_cons_iff]
      rw [meets]
      cases h : Quantity.parse written with
      | error error =>
          have hnot : ¬Reaches node p written := by simp [Reaches, h]
          simp only [Except.error.injEq, hnot, false_and, or_false]
          grind
      | ok bound =>
          simp only
          rw [← reaches_iff h]
          split
          · next hr => rw [ih]; grind
          · next hr => grind

/-- What holds of all thresholds holds of all bounds. -/
theorem forall_thresholds_iff {P : NodeProperty → String → Prop} :
    (∀ entry ∈ filter.thresholds, P entry.1 entry.2) ↔
      ∀ p written, filter.Bounds p written → P p written := by
  simp only [Prod.forall, mem_thresholds_iff, Bounds]

/-- All bounds are gone through with success when the node reaches them. -/
theorem meets_thresholds_eq_ok_true_iff :
    meets node filter.thresholds = .ok true ↔ filter.ReachesBounds node := by
  rw [meets_eq_ok_true_iff, forall_thresholds_iff, ReachesBounds]

/-- **The bounds of a filter cannot be gone through when the node is stuck at one.** -/
theorem meets_thresholds_eq_error_iff {e : FilterError} :
    meets node filter.thresholds = .error e ↔
      ∃ p error, e = .bound p error ∧ filter.Stuck node p error := by
  have hasymm : ∀ {a b : NodeProperty × String}, a.1.Precedes b.1 → ¬b.1.Precedes a.1 :=
    fun h => Nat.lt_asymm h
  have hsplit : ∀ p written,
      (∃ front rest, filter.thresholds = front ++ (p, written) :: rest ∧
        ∀ entry ∈ front, Reaches node entry.1 entry.2) ↔
      filter.Bounds p written ∧
        ∀ q other, q.Precedes p → filter.Bounds q other → Reaches node q other := by
    intro p written
    rw [exists_split_iff_of_pairwise hasymm filter.pairwise_thresholds, mem_thresholds_iff,
      forall_thresholds_iff (P := fun q other => q.Precedes p → Reaches node q other)]
    exact and_congr_right fun _ => forall₂_congr fun _ _ => imp.swap
  simp only [meets_eq_error_iff, hsplit, Stuck]
  constructor
  · rintro ⟨p, written, error, rfl, hparse, hbounds, hreaches⟩
    exact ⟨p, error, rfl, written, hbounds, hreaches, hparse⟩
  · rintro ⟨p, error, rfl, written, hbounds, hreaches, hparse⟩
    exact ⟨p, written, error, rfl, hparse, hbounds, hreaches⟩

/-! ## Labels -/

/-- The labels of a filter are those that it requires. -/
theorem mem_labels_iff_requires {key value : String} :
    (key, value) ∈ filter.labels ↔ filter.Requires key value := mem_labels_iff

/-- No label is missing when the node carries all. -/
theorem find?_labels_eq_none_iff :
    (filter.labels.find? fun label => !node.hasLabel label) = none ↔ filter.Carried node := by
  simp [Carried, ClusterNode.hasLabel, mem_labels_iff_requires]

/-- The label that is looked up last is the least that the node lacks. -/
theorem find?_labels_eq_some_iff {key value : String} :
    (filter.labels.find? fun label => !node.hasLabel label) = some (key, value) ↔
      filter.Requires key value ∧ node.labels.get? key ≠ some value ∧
        ∀ key' value', filter.Requires key' value' → node.labels.get? key' ≠ some value' →
          key ≤ key' := by
  have hasymm : ∀ {a b : String × String}, a.1 < b.1 → ¬b.1 < a.1 := String.lt_asymm
  rw [List.find?_eq_some_iff_append,
    exists_split_iff_of_pairwise hasymm filter.pairwise_labels, mem_labels_iff_requires]
  simp only [ClusterNode.hasLabel, Prod.forall, mem_labels_iff_requires, Bool.not_not, beq_iff_eq,
    Bool.not_eq_true', beq_eq_false_iff_ne]
  rw [and_left_comm]
  refine and_congr_right fun _ => and_congr_right fun _ => forall₂_congr fun key' value' => ?_
  rw [← String.not_lt]
  exact ⟨fun h hreq hlack hlt => hlack (h hreq hlt), fun h hreq hlt =>
    Decidable.byContradiction fun hlack => h hreq hlack hlt⟩

/-- **A node cannot be judged exactly when it faults the filter.** -/
theorem accepts_eq_error_iff {e : FilterError} :
    filter.accepts node = .error e ↔ filter.Faults node e := by
  unfold accepts
  cases h : filter.labels.find? fun label => !node.hasLabel label with
  | some label =>
      obtain ⟨key, value⟩ := label
      obtain ⟨hreq, hlack, hleast⟩ := find?_labels_eq_some_iff.1 h
      simp only [Except.error.injEq]
      -- A fault by a bound would take all labels, and two least keys are the same.
      constructor
      · rintro rfl
        exact .label hreq hlack hleast
      · rintro (⟨hreq', hlack', hleast'⟩ | ⟨hcarried, -⟩)
        · rw [String.le_antisymm (hleast _ _ hreq' hlack') (hleast' _ _ hreq hlack)]
        · exact absurd (hcarried _ _ hreq) hlack
  | none =>
      have hcarried := find?_labels_eq_none_iff.1 h
      simp only [meets_thresholds_eq_error_iff]
      constructor
      · rintro ⟨p, error, rfl, hstuck⟩
        exact .bound hcarried hstuck
      · rintro (⟨hreq, hlack, -⟩ | ⟨-, hstuck⟩)
        · exact absurd (hcarried _ _ hreq) hlack
        · exact ⟨_, _, rfl, hstuck⟩

/-- A node is judged when it faults the filter in no way. -/
theorem exists_accepts_eq_ok_iff :
    (∃ b, filter.accepts node = .ok b) ↔ ∀ e, ¬filter.Faults node e := by
  simp only [← accepts_eq_error_iff]
  cases filter.accepts node with
  | error e => exact ⟨fun ⟨_, h⟩ => (nomatch h), fun h => absurd rfl (h e)⟩
  | ok b => exact ⟨fun _ _ h => (nomatch h), fun _ => ⟨b, rfl⟩⟩

/-- The least required label that a node lacks is a fault, so that a faultless node lacks none. -/
theorem carried_of_not_faults (h : ∀ e, ¬filter.Faults node e) : filter.Carried node := by
  cases hfind : filter.labels.find? fun label => !node.hasLabel label with
  | none => exact find?_labels_eq_none_iff.1 hfind
  | some label =>
      obtain ⟨hreq, hlack, hleast⟩ := find?_labels_eq_some_iff.1 hfind
      exact absurd (.label hreq hlack hleast) (h _)

/-- A node does not fault a filter when it carries all labels and no bound is in the way. -/
theorem not_faults_iff :
    (∀ e, ¬filter.Faults node e) ↔ filter.Carried node ∧ ∀ p error, ¬filter.Stuck node p error := by
  constructor
  · intro h
    have hcarried := carried_of_not_faults h
    exact ⟨hcarried, fun p error hstuck => h _ (.bound hcarried hstuck)⟩
  · rintro ⟨hcarried, hfree⟩ e (⟨hreq, hlack, -⟩ | ⟨-, hstuck⟩)
    · exact hlack (hcarried _ _ hreq)
    · exact hfree _ _ hstuck

/-- A node meets a filter by its labels and by its bounds. -/
theorem meets_iff : filter.Meets node ↔ filter.Carried node ∧ filter.ReachesBounds node := by
  constructor
  · intro h
    refine ⟨fun key value hreq => ?_, fun p written hbounds => ?_⟩
    · obtain ⟨selector, hselector, hvalue⟩ := hreq
      exact h.labels selector hselector key value hvalue
    · exact h.bounds p written hbounds.1 hbounds.2
  · intro h
    exact ⟨fun selector hselector key value hvalue => h.1 key value ⟨selector, hselector, hvalue⟩,
      fun p written hbound hne => h.2 p written ⟨hbound, hne⟩⟩

instance (filter : Filter) (node : ClusterNode) : Decidable (filter.ReachesBounds node) :=
  match h : meets node filter.thresholds with
  | .ok true => isTrue (meets_thresholds_eq_ok_true_iff.1 h)
  | .ok false | .error _ => isFalse fun hr => by
      rw [meets_thresholds_eq_ok_true_iff.2 hr] at h
      nomatch h

end Filter

/-! ## Lists of nodes -/

open NodeFit.Filter

/-- Filtering reports the first node that cannot be judged. -/
theorem matchingNodes_eq_error_iff {filter : Option Filter} {nodes : List ClusterNode}
    {e : FilterError} :
    matchingNodes filter nodes = .error e ↔
      ∃ node, node.passes filter = .error e ∧ ∃ before after, nodes = before ++ node :: after ∧
        ∀ other ∈ before, ∃ b, other.passes filter = .ok b := by
  change _ ↔ FirstFails (fun node => node.passes filter) nodes e
  induction nodes with
  | nil => simp [matchingNodes, not_firstFails_nil]
  | cons first rest ih =>
      simp only [matchingNodes, bind_eq_error_iff, pure_ne_error, and_false, exists_false,
        or_false, exists_and_right, ih, firstFails_cons]

/-- **How a filter judges a list of nodes.**  The list can be filtered exactly when each of its
nodes carries all required labels and is not stuck at a bound, and then those that reach all
bounds are kept in their order.  Otherwise the first node that faults the filter decides. -/
theorem matchingNodes_judges (filter : Filter) (nodes : List ClusterNode) :
    (∀ matching, matchingNodes (some filter) nodes = .ok matching ↔
      (∀ node ∈ nodes, filter.Carried node ∧ ∀ p error, ¬filter.Stuck node p error) ∧
        matching = nodes.filter fun node => filter.ReachesBounds node) ∧
    ∀ e, matchingNodes (some filter) nodes = .error e ↔
      ∃ node, filter.Faults node e ∧ ∃ before after, nodes = before ++ node :: after ∧
        ∀ other ∈ before, ∀ e', ¬filter.Faults other e' := by
  constructor
  · intro matching
    have hjudged : ∀ node : ClusterNode, (∃ b, node.passes (some filter) = .ok b) ↔
        filter.Carried node ∧ ∀ p error, ¬filter.Stuck node p error := by
      intro node
      rw [ClusterNode.passes, exists_accepts_eq_ok_iff, not_faults_iff]
    rw [matchingNodes_eq_ok_iff]
    simp only [hjudged]
    refine and_congr_right fun hall => ?_
    have hkept : ∀ node ∈ nodes,
        decide (node.Meets (some filter)) = decide (filter.ReachesBounds node) := by
      intro node hnode
      have hmeets : node.Meets (some filter) ↔ filter.Meets node := by simp [ClusterNode.Meets]
      rw [decide_eq_decide, hmeets, meets_iff]
      exact and_iff_right (hall node hnode).1
    rw [List.filter_congr hkept]
  · intro e
    simp only [matchingNodes_eq_error_iff, ClusterNode.passes, accepts_eq_error_iff,
      exists_accepts_eq_ok_iff]

/-- Nodes of eight processors and of an amount of memory that is no quantity. -/
def lotsFilter : Filter :=
  (Filter.empty.withBound ⟨.memory, .capacity⟩ "lots").withBound ⟨.cpu, .capacity⟩ "8"

/-- The same with two labels. -/
def eastFilter : Filter := (lotsFilter.withLabel "zone" "east").withLabel "arch" "arm64"

/-- A bound that is not reached hides one that cannot be read, and a label that is missing hides
them all. -/
theorem matchingNodes_judges_lots :
    matchingNodes (some lotsFilter) [fourProcessors] = .ok [] ∧
    matchingNodes (some lotsFilter) [fourProcessors, eightProcessors] =
      .error (.bound ⟨.memory, .capacity⟩ (.invalidNumber "lots")) ∧
    matchingNodes (some eastFilter) [eightProcessors] = .error (.label "arch") := by
  have hlots : Quantity.parse "lots" = .error (.invalidNumber "lots") := rfl
  have height : Quantity.parse "8" = .ok (.clamp 8000000000 .decimalSI) := rfl
  have hbounds : ∀ p written, lotsFilter.Bounds p written ↔
      (p = ⟨.cpu, .capacity⟩ ∧ written = "8") ∨ (p = ⟨.memory, .capacity⟩ ∧ written = "lots") := by
    intro p written
    have hthresholds : lotsFilter.thresholds =
      [(⟨.cpu, .capacity⟩, "8"), (⟨.memory, .capacity⟩, "lots")] := by decide
    simp [Bounds, ← mem_thresholds_iff, hthresholds]
  have hcarried : ∀ node, lotsFilter.Carried node := fun _ _ _ ⟨_, hselector, _⟩ =>
    (nomatch hselector)
  have hbelow : ¬Reaches fourProcessors ⟨.cpu, .capacity⟩ "8" := by
    rw [← reaches_iff height]
    decide
  have hreaches : Reaches eightProcessors ⟨.cpu, .capacity⟩ "8" := by
    rw [← reaches_iff height]
    decide
  have hfree : ∀ p error, ¬lotsFilter.Stuck fourProcessors p error := by
    rintro p error ⟨written, hwritten, hearlier, herror⟩
    obtain ⟨rfl, rfl⟩ | ⟨rfl, rfl⟩ := (hbounds p written).1 hwritten
    · nomatch height.symm.trans herror
    · exact hbelow (hearlier _ _ (by decide) ((hbounds _ _).2 (.inl ⟨rfl, rfl⟩)))
  have hstuck : lotsFilter.Stuck eightProcessors ⟨.memory, .capacity⟩ (.invalidNumber "lots") := by
    refine ⟨"lots", (hbounds _ _).2 (.inr ⟨rfl, rfl⟩), fun q other hq hother => ?_, hlots⟩
    obtain ⟨rfl, rfl⟩ | ⟨rfl, rfl⟩ := (hbounds q other).1 hother
    · exact hreaches
    · exact absurd hq (by decide)
  refine ⟨?_, ?_, ?_⟩
  · have hout : ¬lotsFilter.ReachesBounds fourProcessors := fun h =>
      hbelow (h _ _ ((hbounds _ _).2 (.inl ⟨rfl, rfl⟩)))
    refine ((matchingNodes_judges lotsFilter [fourProcessors]).1 []).2 ⟨?_, by simp [hout]⟩
    exact List.forall_mem_singleton.2 ⟨hcarried _, hfree⟩
  · exact ((matchingNodes_judges lotsFilter [fourProcessors, eightProcessors]).2 _).2
      ⟨eightProcessors, .bound (hcarried _) hstuck, [fourProcessors], [], rfl,
        List.forall_mem_singleton.2 (not_faults_iff.2 ⟨hcarried _, hfree⟩)⟩
  · have hlacks : ∀ key, eightProcessors.labels.get? key = none := fun key => rfl
    have hrequires : ∀ key value, eastFilter.Requires key value ↔
        (key = "arch" ∧ value = "arm64") ∨ (key = "zone" ∧ value = "east") := by
      intro key value
      have hlabels : eastFilter.labels = [("arch", "arm64"), ("zone", "east")] := by decide
      simp [← mem_labels_iff_requires, hlabels]
    have hlabel : eastFilter.Faults eightProcessors (.label "arch") := by
      refine .label ((hrequires _ _).2 (.inl ⟨rfl, rfl⟩)) (by simp [hlacks]) ?_
      intro key value hrequired _
      obtain ⟨rfl, -⟩ | ⟨rfl, -⟩ := (hrequires key value).1 hrequired <;> decide
    exact ((matchingNodes_judges eastFilter [eightProcessors]).2 _).2
      ⟨eightProcessors, hlabel, [], [], rfl, fun _ h => (nomatch h)⟩

end NodeFit
