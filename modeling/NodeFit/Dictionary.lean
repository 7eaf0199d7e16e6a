/-!
# NodeFit.Dictionary

Dictionaries from text to values: the labels of a node, the labels that a filter asks for, the
arguments of a selector, the files of a collection.

The pairs of a dictionary stand in strictly ascending order of their keys, and the structure
carries the proof of it.  So

* each key has one value, and giving it another replaces the first (`get?_insert`),
* the pairs are exactly what look-ups find (`get?_eq_some_iff`), so that two dictionaries
  with the same look-ups are the same value,
* a walk over the pairs visits the keys in a fixed order, which is the order in which a
  filter looks at labels and in which a document is printed.
-/

namespace NodeFit

/-- Pairs of a key and a value, ascending by key. -/
structure Dictionary (α : Type) where
  /-- The pairs, in order. -/
  toList : List (String × α)
  sorted : toList.Pairwise fun a b => a.1 < b.1
deriving DecidableEq, Repr

namespace Dictionary

variable {α β : Type}

/-! ## Insertion into a sorted list -/

/-- Puts a pair in its place, replacing the pair of the same key. -/
def put (key : String) (value : α) : List (String × α) → List (String × α)
  | [] => [(key, value)]
  | entry :: rest =>
    if key < entry.1 then (key, value) :: entry :: rest
    else if key = entry.1 then (key, value) :: rest
    else entry :: put key value rest

/-- Putting a pair in its place brings no key but that of the pair. -/
theorem fst_mem_of_mem_put {key : String} {value : α} {entries : List (String × α)}
    {e : String × α} (h : e ∈ put key value entries) : e.1 = key ∨ e ∈ entries := by
  induction entries with
  | nil => simp [put] at h; simp [h]
  | cons entry rest ih =>
    simp only [put] at h
    split at h
    · rcases List.mem_cons.1 h with rfl | h
      · exact .inl rfl
      · exact .inr h
    · split at h
      · rcases List.mem_cons.1 h with rfl | h
        · exact .inl rfl
        · exact .inr (List.mem_cons_of_mem _ h)
      · rcases List.mem_cons.1 h with rfl | h
        · exact .inr List.mem_cons_self
        · exact (ih h).imp id (List.mem_cons_of_mem _)

/-- Putting a pair in its place keeps the keys strictly ascending. -/
theorem pairwise_put (key : String) (value : α) {entries : List (String × α)}
    (h : entries.Pairwise fun a b => a.1 < b.1) :
    (put key value entries).Pairwise fun a b => a.1 < b.1 := by
  induction entries with
  | nil => simp [put]
  | cons entry rest ih =>
    have ⟨below, sorted⟩ := List.pairwise_cons.1 h
    simp only [put]
    split
    · rename_i lt
      refine List.pairwise_cons.2 ⟨fun e he => ?_, h⟩
      rcases List.mem_cons.1 he with rfl | he
      · exact lt
      · exact String.lt_trans lt (below e he)
    · split
      · rename_i eq
        exact List.pairwise_cons.2 ⟨fun e he => eq ▸ below e he, sorted⟩
      · rename_i nlt ne
        refine List.pairwise_cons.2 ⟨fun e he => ?_, ih sorted⟩
        rcases fst_mem_of_mem_put he with eq | he
        · rw [eq]
          exact Decidable.byContradiction fun h =>
            ne (String.le_antisymm (String.not_lt.1 h) (String.not_lt.1 nlt))
        · exact below e he

/-! ## Operations -/

def empty : Dictionary α := ⟨[], .nil⟩

/-- The value of a key. -/
def get? (d : Dictionary α) (key : String) : Option α := d.toList.lookup key

/-- The dictionary with one key given a value. -/
def insert (d : Dictionary α) (key : String) (value : α) : Dictionary α :=
  ⟨put key value d.toList, pairwise_put key value d.sorted⟩

/-- The dictionary of some pairs; of two with the same key the later one counts. -/
def ofList (entries : List (String × α)) : Dictionary α :=
  entries.foldl (fun d entry => d.insert entry.1 entry.2) empty

def keys (d : Dictionary α) : List String := d.toList.map Prod.fst

def size (d : Dictionary α) : Nat := d.toList.length

def isEmpty (d : Dictionary α) : Bool := d.toList.isEmpty

/-! ## Look-up after insertion -/

theorem lookup_cons (key : String) (entry : String × α) (rest : List (String × α)) :
    (entry :: rest).lookup key = if key = entry.1 then some entry.2 else rest.lookup key := by
  rcases entry with ⟨k, v⟩
  by_cases h : key = k
  · simp [h]
  · have : (key == k) = false := beq_false_of_ne h
    simp [List.lookup_cons, this, h]

/-- After a pair was put in its place its key has the new value, and every other key the one it
had. -/
theorem lookup_put (key other : String) (value : α) (entries : List (String × α)) :
    (put key value entries).lookup other =
      if other = key then some value else entries.lookup other := by
  induction entries with
  | nil => simp [put, lookup_cons]
  | cons entry rest ih =>
    simp only [put]
    split
    · simp [lookup_cons]
    · split
      · rename_i eq
        by_cases h : other = key <;> simp [lookup_cons, h, ← eq]
      · rename_i ne
        simp only [lookup_cons, ih]
        by_cases h : other = entry.1
        · simp only [h, if_true]
          exact (if_neg fun e => ne e.symm).symm
        · simp [h]

@[simp] theorem get?_empty (key : String) : (empty : Dictionary α).get? key = none := rfl

/-- A key that was given a value has it; the other keys keep theirs. -/
@[simp] theorem get?_insert (d : Dictionary α) (key other : String) (value : α) :
    (d.insert key value).get? other = if other = key then some value else d.get? other :=
  lookup_put key other value d.toList

/-! ## Look-up and the pairs -/

/-- Pairs with distinct keys are what a look-up finds. -/
theorem lookup_eq_some_iff {κ : Type} [BEq κ] [LawfulBEq κ] {entries : List (κ × α)}
    (h : entries.Pairwise fun a b => a.1 ≠ b.1) {key : κ} {value : α} :
    entries.lookup key = some value ↔ (key, value) ∈ entries := by
  induction entries with
  | nil => simp
  | cons entry rest ih =>
    obtain ⟨distinct, hrest⟩ := List.pairwise_cons.1 h
    obtain ⟨k, v⟩ := entry
    rw [List.lookup_cons, List.mem_cons, Prod.mk.injEq]
    split
    · next hkey =>
      obtain rfl : key = k := eq_of_beq hkey
      have hno : (key, value) ∉ rest := fun he => distinct _ he rfl
      rw [Option.some.injEq, or_iff_left hno, eq_self, true_and, eq_comm]
    · next hkey =>
      have hne : ¬(key = k ∧ value = v) := fun he => by simp [he.1] at hkey
      rw [ih hrest, or_iff_right hne]

/-- No two pairs of a dictionary have the same key. -/
theorem distinct (d : Dictionary α) : d.toList.Pairwise fun a b => a.1 ≠ b.1 :=
  d.sorted.imp fun {a b} hlt (heq : a.1 = b.1) => String.lt_irrefl b.1 (heq ▸ hlt)

/-- The pairs of a dictionary are its keys with their values. -/
theorem get?_eq_some_iff {d : Dictionary α} {key : String} {value : α} :
    d.get? key = some value ↔ (key, value) ∈ d.toList :=
  lookup_eq_some_iff d.distinct

theorem mem_keys_iff {d : Dictionary α} {key : String} :
    key ∈ d.keys ↔ (d.get? key).isSome := by
  simp only [keys, List.mem_map, Option.isSome_iff_exists, get?_eq_some_iff]
  exact ⟨fun ⟨e, he, hkey⟩ => ⟨e.2, hkey ▸ he⟩, fun ⟨value, h⟩ => ⟨_, h, rfl⟩⟩

end Dictionary
end NodeFit
