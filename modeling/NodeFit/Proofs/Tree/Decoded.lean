import Mathlib.Data.Multiset.AddSub
import NodeFit.Proofs.Except
import NodeFit.Tree.Decoder

/-!
# NodeFit.Proofs.Tree.Decoded

What a reading comes to.

A reading that succeeds gives a value and drops entries on the way.  The order in which
they are dropped is that of the document, so that it is left out of account here: `Gives`
speaks of the numbers of dropped entries as a multiset.

Readings are put together by `bind`, and so are statements about them: what two steps give is
what each of them gives, and the numbers add up (`gives_bind_iff`).  Where dropped entries do
not matter, `result_bind_iff` speaks of the values alone.
-/

namespace NodeFit.Decoded

variable {α β : Type}

/-- The reading succeeds with a value, and drops entries in these numbers. -/
structure Gives (d : Decoded α) (lost : Multiset Nat) (a : α) : Prop where
  result : d.result = .ok a
  dropped : (d.dropped : Multiset Nat) = lost

variable {d : Decoded α} {lost : Multiset Nat} {a : α} {b : β}

/-- A reading gives a value when it has it, and the numbers of dropped entries are some order of
those given. -/
theorem gives_iff {dropped : List Nat} :
    d.Gives dropped a ↔ ∃ dropped', dropped.Perm dropped' ∧ d = ⟨dropped', .ok a⟩ := by
  constructor
  · intro h
    refine ⟨d.dropped, (Multiset.coe_eq_coe.1 h.dropped).symm, ?_⟩
    rw [← h.result]
  · intro h
    obtain ⟨dropped', hperm, rfl⟩ := h
    exact ⟨rfl, Multiset.coe_eq_coe.2 hperm.symm⟩

/-- A reading that drops nothing is nothing but its value. -/
theorem gives_zero_iff : d.Gives 0 a ↔ d = ⟨[], .ok a⟩ := by
  constructor
  · intro h
    have hdropped : d.dropped = [] := Multiset.coe_eq_zero _ |>.1 h.dropped
    rw [← h.result, ← hdropped]
  · intro h
    subst h
    exact ⟨rfl, rfl⟩

/-- A reading has a value when it gives one, whatever is dropped. -/
theorem result_eq_ok_iff : d.result = .ok a ↔ ∃ lost, d.Gives lost a :=
  ⟨fun h => ⟨d.dropped, h, rfl⟩, fun ⟨_, h⟩ => h.result⟩

/-! ## Steps -/

@[simp] theorem gives_pure_iff {c : α} : (pure c : Decoded α).Gives lost a ↔ lost = 0 ∧ c = a := by
  constructor
  · intro h
    exact ⟨h.dropped.symm, Except.ok.inj h.result⟩
  · intro h
    obtain ⟨rfl, rfl⟩ := h
    exact ⟨rfl, rfl⟩

theorem gives_pure (a : α) : (pure a : Decoded α).Gives 0 a := gives_pure_iff.2 ⟨rfl, rfl⟩

@[simp] theorem not_gives_expected {what : String} :
    ¬(expected what : Decoded α).Gives lost a :=
  fun h => nomatch h.result

/-- Two steps give what the second gives for the value of the first, and drop what both drop. -/
theorem gives_bind_iff {f : α → Decoded β} :
    (d >>= f).Gives lost b ↔
      ∃ a first second, d.Gives first a ∧ (f a).Gives second b ∧ first + second = lost := by
  obtain ⟨dropped, result⟩ := d
  cases result with
  | error e =>
      constructor
      · intro h
        exact nomatch h.result
      · intro h
        obtain ⟨_, _, _, ha, -⟩ := h
        exact nomatch ha.result
  | ok a =>
      constructor
      · intro h
        exact ⟨a, dropped, (f a).dropped, ⟨rfl, rfl⟩, ⟨h.result, rfl⟩, h.dropped⟩
      · intro h
        obtain ⟨a', first, second, ha, hb, rfl⟩ := h
        obtain rfl : a = a' := Except.ok.inj ha.result
        refine ⟨hb.result, ?_⟩
        rw [← ha.dropped, ← hb.dropped]
        rfl

theorem Gives.bind {f : α → Decoded β} {first second : Multiset Nat} (ha : d.Gives first a)
    (hb : (f a).Gives second b) : (d >>= f).Gives (first + second) b :=
  gives_bind_iff.2 ⟨a, first, second, ha, hb, rfl⟩

theorem pure_bind (a : α) (f : α → Decoded β) : (pure a >>= f) = f a := rfl

/-- A step that drops nothing. -/
theorem Gives.bind_pure {f : α → Decoded β} (ha : d.Gives lost a) (hb : (f a).Gives 0 b) :
    (d >>= f).Gives lost b :=
  Multiset.add_zero lost ▸ ha.bind hb

/-- What is done with a value drops nothing. -/
theorem gives_map_iff {f : α → β} :
    (f <$> d).Gives lost b ↔ ∃ a, d.Gives lost a ∧ f a = b := by
  change (d >>= fun a => pure (f a)).Gives lost b ↔ _
  rw [gives_bind_iff]
  constructor
  · intro h
    obtain ⟨a, first, second, ha, hb, rfl⟩ := h
    obtain ⟨rfl, rfl⟩ := gives_pure_iff.1 hb
    exact ⟨a, by rwa [Multiset.add_zero], rfl⟩
  · intro h
    obtain ⟨a, ha, rfl⟩ := h
    exact ⟨a, lost, 0, ha, gives_pure _, Multiset.add_zero _⟩

theorem Gives.map (h : d.Gives lost a) (f : α → β) : (f <$> d).Gives lost (f a) :=
  gives_map_iff.2 ⟨a, h, rfl⟩

/-- A value in front of others. -/
theorem gives_cons_iff {f : α → β} {ds : Decoded (List β)} {bs : List β} :
    (d >>= fun a => ds >>= fun rest => pure (f a :: rest)).Gives lost bs ↔
      ∃ a rest first second, d.Gives first a ∧ ds.Gives second rest ∧ first + second = lost ∧
        f a :: rest = bs := by
  rw [gives_bind_iff]
  constructor
  · intro h
    obtain ⟨a, first, _, ha, hcons, rfl⟩ := h
    obtain ⟨rest, hrest, rfl⟩ := gives_map_iff.1 hcons
    exact ⟨a, rest, first, _, ha, hrest, rfl, rfl⟩
  · intro h
    obtain ⟨a, rest, first, second, ha, hrest, rfl, rfl⟩ := h
    exact ⟨a, first, second, ha, hrest.map (f a :: ·), rfl⟩

/-- A value that must be there is given if it is, and nothing is dropped. -/
theorem gives_require_iff {what : String} {o : Option α} :
    (require what o).Gives lost a ↔ lost = 0 ∧ o = some a := by
  cases o with
  | none => simp [require]
  | some c => simp [require]

/-! ## Values alone -/

/-- Two steps have a value if the first has one and the second has one for it. -/
theorem result_bind_iff {f : α → Decoded β} :
    (d >>= f).result = .ok b ↔ ∃ a, d.result = .ok a ∧ (f a).result = .ok b := by
  have hbind : (d >>= f).result = d.result >>= fun a => (f a).result := by
    obtain ⟨dropped, _ | a⟩ := d <;> rfl
  rw [hbind, bind_eq_ok_iff]

theorem result_map_iff {f : α → β} :
    (f <$> d).result = .ok b ↔ ∃ a, d.result = .ok a ∧ f a = b := by
  change (d >>= fun a => pure (f a)).result = .ok b ↔ _
  rw [result_bind_iff]
  exact exists_congr fun _ => and_congr_right fun _ => ⟨Except.ok.inj, congrArg _⟩

end NodeFit.Decoded
