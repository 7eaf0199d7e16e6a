import NodeFit.Outcome
import NodeFit.Proofs.Except

/-!
# NodeFit.Proofs.Outcome

Which outcome is selected: the first that holds, after outcomes that all fail to hold
without an error.  No outcome is selected when all of them fail to hold.

An error counts only if it is reached, so that an outcome which cannot be evaluated does no harm
behind one that holds (`FirstHolds`, `selectOutcome_eq_some_iff`).
-/

namespace NodeFit

/-- The outcome at a position is the first of a list that holds over some nodes; what
comes before it is evaluated without an error. -/
structure FirstHolds (nodes : List ClusterNode) (outcomes : List Outcome) (i : Nat)
    (o : Outcome) : Prop where
  get : outcomes[i]? = some o
  holds : o.holds nodes = .ok true
  earlier : ∀ j p, j < i → outcomes[j]? = some p → p.holds nodes = .ok false

variable {nodes : List ClusterNode} {outcomes : List Outcome} {o p : Outcome}

/-- An outcome that holds at the head of a list is the first. -/
theorem FirstHolds.head (h : o.holds nodes = .ok true) :
    FirstHolds nodes (o :: outcomes) 0 o where
  get := rfl
  holds := h
  earlier _ _ hj := absurd hj (Nat.not_lt_zero _)

/-- The first outcome that holds is still the first behind one that does not. -/
theorem FirstHolds.tail {i : Nat} (hp : p.holds nodes = .ok false)
    (h : FirstHolds nodes outcomes i o) : FirstHolds nodes (p :: outcomes) (i + 1) o where
  get := h.get
  holds := h.holds
  earlier j q hj hq := by
    cases j with
    | zero => exact Option.some.inj hq ▸ hp
    | succ j => exact h.earlier j q (Nat.lt_of_succ_lt_succ hj) hq

/-- The first outcome that holds stands at the head or in the rest. -/
theorem FirstHolds.cases_cons {i : Nat} (h : FirstHolds nodes (p :: outcomes) i o) :
    o = p ∧ p.holds nodes = .ok true ∨
      p.holds nodes = .ok false ∧ ∃ j, FirstHolds nodes outcomes j o := by
  cases i with
  | zero =>
      obtain rfl : p = o := Option.some.inj h.get
      exact .inl ⟨rfl, h.holds⟩
  | succ i =>
      refine .inr ⟨h.earlier 0 p (Nat.succ_pos i) rfl, i, h.get, h.holds, fun j q hj hq => ?_⟩
      exact h.earlier (j + 1) q (Nat.succ_lt_succ hj) hq

/-- **The first outcome that holds is selected.** -/
theorem selectOutcome_eq_some_iff :
    selectOutcome nodes outcomes = .ok (some o) ↔ ∃ i, FirstHolds nodes outcomes i o := by
  induction outcomes with
  | nil => exact ⟨fun h => (nomatch h), fun ⟨i, h⟩ => by simpa using h.get⟩
  | cons p rest ih =>
      rw [selectOutcome, bind_eq_ok_iff]
      constructor
      · intro h
        obtain ⟨b, hp, h⟩ := h
        cases b with
        | true =>
            obtain rfl : p = o := Option.some.inj (Except.ok.inj h)
            exact ⟨0, .head hp⟩
        | false =>
            obtain ⟨i, hi⟩ := ih.1 h
            exact ⟨i + 1, hi.tail hp⟩
      · intro h
        obtain ⟨i, h⟩ := h
        obtain ⟨rfl, hp⟩ | ⟨hp, hrest⟩ := h.cases_cons
        · exact ⟨true, hp, rfl⟩
        · exact ⟨false, hp, ih.2 hrest⟩

/-- **No outcome is selected when none holds.** -/
theorem selectOutcome_eq_none_iff :
    selectOutcome nodes outcomes = .ok none ↔ ∀ o ∈ outcomes, o.holds nodes = .ok false := by
  induction outcomes with
  | nil => exact ⟨fun _ _ h => (nomatch h), fun _ => rfl⟩
  | cons p rest ih =>
      rw [selectOutcome, bind_eq_ok_iff, List.forall_mem_cons, ← ih]
      constructor
      · intro h
        obtain ⟨b, hp, h⟩ := h
        cases b with
        | true => exact nomatch h
        | false => exact ⟨hp, h⟩
      · intro h
        obtain ⟨hp, h⟩ := h
        exact ⟨false, hp, h⟩

/-- The selection sees no more of nodes than which outcomes hold. -/
theorem selectOutcome_congr {nodes' : List ClusterNode}
    (h : ∀ o ∈ outcomes, o.holds nodes = o.holds nodes') :
    selectOutcome nodes outcomes = selectOutcome nodes' outcomes := by
  induction outcomes with
  | nil => rfl
  | cons o rest ih =>
      rw [selectOutcome, selectOutcome, h o List.mem_cons_self,
        ih fun p hp => h p (List.mem_cons_of_mem _ hp)]

end NodeFit
