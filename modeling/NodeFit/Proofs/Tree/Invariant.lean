import NodeFit.Proofs.Tree.Record

/-!
# NodeFit.Proofs.Tree.Invariant

What holds of every record that is read, whatever tree it is read from.

A property that holds at the start and that the fields keep holds of the record
(`decodeRecord_invariant`).  What a record leaves to others carries none of its names
(`fieldOf?_of_decodeOpenRecord`).

Nothing is assumed of the names or of the order of the entries, so that these statements do not
go through the entries that a tree gives.
-/

namespace NodeFit.Tree

open Decoded (gives_bind_iff gives_map_iff gives_pure_iff not_gives_expected)

variable {σ : Type} {format : Format} {fields : List (RecordField σ)} {lost : Multiset Nat}

/-! ## Half way -/

/-- A field that is given changes the record by what is read, and keeps the rest. -/
theorem Reading.exists_of_give {r r' : Reading σ} {f : RecordField σ} {value : Tree}
    (h : (r.give f value).Gives lost r') : ∃ change, (f.read value).Gives lost change ∧
      { r with seen := f.name :: r.seen, record := change r.record } = r' := by
  by_cases hseen : f.name ∈ r.seen
  · rw [give, if_pos (by simpa using hseen)] at h
    exact absurd h not_gives_expected
  · exact (Reading.give_gives_iff hseen).1 h

/-- What each entry keeps is kept by all entries of a map. -/
theorem Reading.takeAll_invariant {other : String → Tree → Reading σ → Decoded (Reading σ)}
    {P : Reading σ → Prop}
    (hgive : ∀ f ∈ fields, ∀ value r r' lost, (r.give f value).Gives lost r' → P r → P r')
    (hother : ∀ name value r r' lost, fieldOf? fields name = none →
      (other name value r).Gives lost r' → P r → P r')
    {entries : List (Tree × Tree)} {r r' : Reading σ}
    (h : (r.takeAll format fields other entries).Gives lost r') (hr : P r) : P r' := by
  induction entries generalizing r lost with
  | nil => exact (gives_pure_iff.1 h).2 ▸ hr
  | cons e rest ih =>
      obtain ⟨key, value⟩ := e
      obtain ⟨name, _, _, -, hrest, -⟩ := gives_bind_iff.1 h
      obtain ⟨r₁, _, _, htake, hrest, -⟩ := gives_bind_iff.1 hrest
      refine ih hrest ?_
      rw [take, ← fieldOf?] at htake
      split at htake
      · next f hf => exact hgive f (name_of_fieldOf? hf).1 value r r₁ _ htake hr
      · next hnone => exact hother name value r r₁ _ hnone htake hr

/-- What each value keeps is kept by all values of a list. -/
theorem Reading.giveAll_invariant {P : Reading σ → Prop}
    (hgive : ∀ f ∈ fields, ∀ value r r' lost, (r.give f value).Gives lost r' → P r → P r')
    {values : List Tree} {r r' : Reading σ} (h : (r.giveAll fields values).Gives lost r')
    (hr : P r) : P r' := by
  induction values generalizing fields r lost with
  | nil =>
      rw [giveAll] at h
      exact (gives_pure_iff.1 h).2 ▸ hr
  | cons value rest ih =>
      cases fields with
      | nil => exact absurd h not_gives_expected
      | cons f fields =>
          obtain ⟨hf, hfields⟩ := List.forall_mem_cons.1 hgive
          obtain ⟨r₁, _, _, hvalue, hrest, -⟩ := gives_bind_iff.1 h
          exact ih hfields hrest (hf value r r₁ _ hvalue hr)

/-! ## Records -/

variable {start record : σ} {t : Tree}

/-- What is read for the field keeps the property of a record. -/
def RecordField.Keeps (f : RecordField σ) (P : σ → Prop) : Prop :=
  ∀ ⦃t lost change⦄, (f.read t).Gives lost change → ∀ record, P record → P (change record)

/-- A field keeps a property if what it reads keeps it. -/
theorem RecordField.keeps_of {α : Type} {name : String} {decode : Tree → Decoded α}
    {set : α → σ → σ} {P : σ → Prop}
    (h : ∀ ⦃t lost a⦄, (decode t).Gives lost a → ∀ record, P record → P (set a record)) :
    (RecordField.of name decode set).Keeps P := by
  intro t lost change hread record hrecord
  obtain ⟨a, ha, rfl⟩ := read_of_iff.1 hread
  exact h ha record hrecord

/-- **What the fields keep holds of the record.** -/
theorem decodeRecord_invariant {P : σ → Prop} (hkeeps : ∀ f ∈ fields, f.Keeps P)
    (hstart : P start) (h : (decodeRecord format fields start t).Gives lost record) : P record := by
  have hgive : ∀ f ∈ fields, ∀ value (r r' : Reading σ) lost, (r.give f value).Gives lost r' →
      P r.record → P r'.record := by
    intro f hf value r r' lost hgives hr
    obtain ⟨change, hchange, rfl⟩ := Reading.exists_of_give hgives
    exact hkeeps f hf hchange r.record hr
  unfold decodeRecord at h
  split at h
  · obtain ⟨r, hr, rfl⟩ := gives_map_iff.1 h
    exact Reading.giveAll_invariant hgive hr hstart
  · obtain ⟨entries, _, _, -, htake, -⟩ := gives_bind_iff.1 h
    obtain ⟨r, hr, rfl⟩ := gives_map_iff.1 htake
    refine Reading.takeAll_invariant hgive ?_ hr hstart
    intro name value r r' lost _ hpure hr
    exact (gives_pure_iff.1 hpure).2 ▸ hr

/-- What a record leaves belongs to none of its fields. -/
theorem fieldOf?_of_decodeOpenRecord {others : List (String × Tree)}
    (h : (decodeOpenRecord format fields start t).Gives lost (record, others))
    {e : String × Tree} (he : e ∈ others) : fieldOf? fields e.1 = none := by
  obtain ⟨entries, _, _, -, htake, -⟩ := gives_bind_iff.1 h
  obtain ⟨r, hr, hrecord⟩ := gives_map_iff.1 htake
  obtain ⟨-, rfl⟩ := Prod.mk.inj hrecord
  let Strangers (r : Reading σ) : Prop := ∀ e ∈ r.others, fieldOf? fields e.1 = none
  have hstart : Strangers (Reading.start start) := fun _ he => nomatch he
  have hothers : Strangers r := by
    refine Reading.takeAll_invariant ?_ ?_ hr hstart
    · intro f _ value r r' lost hgives hothers
      obtain ⟨change, -, rfl⟩ := Reading.exists_of_give hgives
      exact hothers
    · intro name value r r' lost hnone hkept hothers
      split at hkept
      · obtain ⟨-, rfl⟩ := gives_pure_iff.1 hkept
        exact List.forall_mem_cons.2 ⟨hnone, hothers⟩
      · exact absurd hkept not_gives_expected
  exact hothers e (List.mem_reverse.1 he)

end NodeFit.Tree
