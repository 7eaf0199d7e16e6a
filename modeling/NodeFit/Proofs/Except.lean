/-!
# NodeFit.Proofs.Except

When stages that may fail succeed, and when they fail.

Two stages succeed when both do, and fail with the error of the first that does
(`bind_eq_ok_iff`, `bind_eq_error_iff`).  A run of stages over a list fails at the first entry
whose stage does (`FirstFails`): this is the form in which the first bad amount of a node, the
first bad node of a list and the first node that a filter cannot judge are reported.
-/

namespace NodeFit

variable {ε ε' α β : Type}

/-- Two stages succeed when the first does and the second does on its outcome. -/
theorem bind_eq_ok_iff {x : Except ε α} {f : α → Except ε β} {b : β} :
    x >>= f = .ok b ↔ ∃ a, x = .ok a ∧ f a = .ok b := by
  cases x with
  | error e => exact ⟨fun h => (nomatch h), fun ⟨_, h, _⟩ => (nomatch h)⟩
  | ok a => exact ⟨fun h => ⟨a, rfl, h⟩, fun ⟨_, ha, h⟩ => Except.ok.inj ha ▸ h⟩

/-- Two stages fail when the first does, or when it succeeds and the second fails. -/
theorem bind_eq_error_iff {x : Except ε α} {f : α → Except ε β} {e : ε} :
    x >>= f = .error e ↔ x = .error e ∨ ∃ a, x = .ok a ∧ f a = .error e := by
  cases x with
  | error e' =>
      exact ⟨fun h => .inl (congrArg _ (Except.error.inj h)), fun h =>
        h.elim (fun h => congrArg _ (Except.error.inj h)) fun ⟨_, h, _⟩ => (nomatch h)⟩
  | ok a =>
      exact ⟨fun h => .inr ⟨a, rfl, h⟩, fun h =>
        h.elim (fun h => (nomatch h)) fun ⟨_, ha, h⟩ => Except.ok.inj ha ▸ h⟩

theorem mapError_error (e : ε) (f : ε → ε') :
    (Except.error e : Except ε α).mapError f = .error (f e) := rfl

theorem mapError_ok (a : α) (f : ε → ε') : (Except.ok a : Except ε α).mapError f = .ok a := rfl

/-- Reporting an error in another way does not turn it into a success. -/
theorem mapError_eq_ok_iff {x : Except ε α} {f : ε → ε'} {a : α} :
    x.mapError f = .ok a ↔ x = .ok a := by
  cases x with
  | error e => exact ⟨fun h => (nomatch h), fun h => (nomatch h)⟩
  | ok b => exact ⟨fun h => congrArg _ (Except.ok.inj h), fun h => congrArg _ (Except.ok.inj h)⟩

/-- An error that is reported in another way comes from an error. -/
theorem mapError_eq_error_iff {x : Except ε α} {f : ε → ε'} {e' : ε'} :
    x.mapError f = .error e' ↔ ∃ e, x = .error e ∧ f e = e' := by
  cases x with
  | error e =>
      exact ⟨fun h => ⟨e, rfl, Except.error.inj h⟩, fun ⟨_, he, h⟩ =>
        congrArg _ (Except.error.inj he ▸ h)⟩
  | ok a => exact ⟨fun h => (nomatch h), fun ⟨_, h, _⟩ => (nomatch h)⟩

/-- What is done with a value takes that there is one. -/
theorem map_eq_ok_iff {x : Except ε α} {f : α → β} {b : β} :
    x.map f = .ok b ↔ ∃ a, x = .ok a ∧ f a = b := by
  cases x with
  | error e => exact ⟨fun h => (nomatch h), fun ⟨_, h, _⟩ => (nomatch h)⟩
  | ok a =>
      exact ⟨fun h => ⟨a, rfl, Except.ok.inj h⟩, fun ⟨_, ha, h⟩ =>
        congrArg _ (Except.ok.inj ha ▸ h)⟩

/-- What is done with a value leaves errors as they are. -/
theorem map_eq_error_iff {x : Except ε α} {f : α → β} {e : ε} :
    x.map f = .error e ↔ x = .error e := by
  cases x with
  | error e' => exact ⟨fun h => congrArg _ (Except.error.inj h), fun h =>
      congrArg _ (Except.error.inj h)⟩
  | ok a => exact ⟨fun h => (nomatch h), fun h => (nomatch h)⟩

theorem pure_ne_error (a : α) (e : ε) : (pure a : Except ε α) ≠ .error e := fun h => nomatch h

/-- Successes can be evaluated where errors cannot be compared. -/
theorem toOption_eq_some_iff {x : Except ε α} {a : α} : x.toOption = some a ↔ x = .ok a := by
  cases x with
  | error e => exact ⟨fun h => (nomatch h), fun h => (nomatch h)⟩
  | ok b => exact ⟨fun h => congrArg _ (Option.some.inj h), fun h => congrArg _ (Except.ok.inj h)⟩

/-! ## Runs over lists -/

/-- An entry of a list is its first, or stands behind the first. -/
theorem exists_split_cons_iff {P : α → Prop} {a first : α} {rest : List α} :
    (∃ front back, first :: rest = front ++ a :: back ∧ ∀ b ∈ front, P b) ↔
      a = first ∨ (P first ∧ ∃ front back, rest = front ++ a :: back ∧ ∀ b ∈ front, P b) := by
  constructor
  · rintro ⟨front, back, heq, hfront⟩
    obtain ⟨rfl, heq⟩ | ⟨front, rfl, rfl⟩ := List.cons_eq_append_iff.1 heq
    · exact .inl (List.cons.inj heq).1.symm
    · obtain ⟨hfirst, hfront⟩ := List.forall_mem_cons.1 hfront
      exact .inr ⟨hfirst, front, back, rfl, hfront⟩
  · rintro (rfl | ⟨hfirst, front, back, rfl, hfront⟩)
    · exact ⟨[], rest, rfl, fun _ h => (nomatch h)⟩
    · exact ⟨first :: front, back, rfl, List.forall_mem_cons.2 ⟨hfirst, hfront⟩⟩

/-- Of the stages of some entries the first that fails does so with the given error. -/
def FirstFails (f : α → Except ε β) (entries : List α) (e : ε) : Prop :=
  ∃ a, f a = .error e ∧
    ∃ front back, entries = front ++ a :: back ∧ ∀ b ∈ front, ∃ c, f b = .ok c

section FirstFails

variable {f : α → Except ε β} {entries : List α} {e : ε}

theorem not_firstFails_nil : ¬FirstFails f [] e := by simp [FirstFails]

/-- The first failure is that of the first entry, or comes behind an entry that succeeds. -/
theorem firstFails_cons {a : α} :
    FirstFails f (a :: entries) e ↔
      f a = .error e ∨ ((∃ b, f a = .ok b) ∧ FirstFails f entries e) := by
  simp only [FirstFails, exists_split_cons_iff]
  constructor
  · rintro ⟨b, hb, rfl | ⟨ha, hsplit⟩⟩
    · exact .inl hb
    · exact .inr ⟨ha, b, hb, hsplit⟩
  · rintro (ha | ⟨ha, b, hb, hsplit⟩)
    · exact ⟨a, ha, .inl rfl⟩
    · exact ⟨b, hb, .inr ⟨ha, hsplit⟩⟩

/-- A second list is reached when no stage of the first fails. -/
theorem firstFails_append {entries' : List α} :
    FirstFails f (entries ++ entries') e ↔
      FirstFails f entries e ∨ ((∀ a ∈ entries, ∃ b, f a = .ok b) ∧ FirstFails f entries' e) := by
  induction entries with
  | nil => simp [not_firstFails_nil]
  | cons a rest ih =>
      rw [List.cons_append, firstFails_cons, firstFails_cons, ih, List.forall_mem_cons, and_or_left,
        or_assoc, and_assoc]

/-- The first failure over indices is that over the entries at these indices. -/
theorem firstFails_map {ι : Type} {g : ι → α} {indices : List ι} :
    FirstFails f (indices.map g) e ↔ FirstFails (f ∘ g) indices e := by
  induction indices with
  | nil => simp [not_firstFails_nil]
  | cons i rest ih => simp only [List.map_cons, firstFails_cons, ih, Function.comp_apply]

/-- Either no stage fails, or one fails first. -/
theorem forall_eq_ok_iff :
    (∀ a ∈ entries, ∃ b, f a = .ok b) ↔ ∀ e, ¬FirstFails f entries e := by
  induction entries with
  | nil => simp [not_firstFails_nil]
  | cons a rest ih =>
      rw [List.forall_mem_cons, ih]
      simp only [firstFails_cons]
      cases f a with
      | error e => exact ⟨fun ⟨⟨_, h⟩, _⟩ => (nomatch h), fun h => absurd (.inl rfl) (h e)⟩
      | ok b => simp

/-- What fails only by the first failing stage succeeds when no stage fails. -/
theorem exists_eq_ok_iff_of_firstFails {γ : Type} {x : Except ε γ}
    (h : ∀ e, x = .error e ↔ FirstFails f entries e) :
    (∃ c, x = .ok c) ↔ ∀ a ∈ entries, ∃ b, f a = .ok b := by
  simp only [forall_eq_ok_iff, ← h]
  cases x with
  | error e => exact ⟨fun ⟨_, h⟩ => (nomatch h), fun h => absurd rfl (h e)⟩
  | ok c => exact ⟨fun _ _ h => (nomatch h), fun _ => ⟨c, rfl⟩⟩

end FirstFails

end NodeFit
