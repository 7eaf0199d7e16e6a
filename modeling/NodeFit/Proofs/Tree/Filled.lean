import NodeFit.Proofs.Tree.View

/-!
# NodeFit.Proofs.Tree.Filled

Reading back records that were written field by field.

A writer gives the fields of a record in their order and leaves some of them out
(`Fills`).  What it writes is an object with distinct names, and the record is read back
from it (`Fills.decodeRecord_object`), although reading the object brings its fields in
ascending order first.

`Fills` is built up one field at a time: a field that is always written
(`fills_required`), one that is left out when there is nothing to say (`fills_optional`), and
several one after the other (`Fills.append`).
-/

namespace NodeFit.Tree

open Dictionary (DistinctKeys distinctKeys_iff_nodup distinctKeys_map_iff)
open Json (optional)

variable {σ α : Type} {format : Format} {decode : Tree → Decoded α}

/-! ## Trees of objects -/

/-- The entries of some fields. -/
def trees (fields : List (String × Json)) : List (String × Tree) :=
  fields.map fun e => (e.1, e.2.tree)

theorem trees_append (xs ys : List (String × Json)) : trees (xs ++ ys) = trees xs ++ trees ys :=
  List.map_append

theorem distinctKeys_trees_iff {xs : List (String × Json)} :
    DistinctKeys (trees xs) ↔ DistinctKeys xs :=
  distinctKeys_map_iff

/-- A list that was written item by item is read back. -/
theorem decodeList_map {β : Type} {write : β → Json} {read : β → α} {bs : List β}
    (h : ∀ b ∈ bs, (decode (write b).tree).Gives 0 (read b)) :
    (decodeList format decode (Json.list (bs.map write)).tree).Gives 0 (bs.map read) :=
  view_tree.decodeList_map h

/-- The entries of an object are those of its fields, in some order. -/
theorem exists_tree_object {xs : List (String × Json)} (h : DistinctKeys xs) :
    ∃ entries, (Json.object xs).tree = map (named entries) ∧ (trees xs).Perm entries :=
  view_tree.object h

/-- A dictionary of texts is read back. -/
theorem decodeTexts_ofTexts (texts : Dictionary String) :
    ((Json.ofTexts texts).tree.decodeTexts format).Gives 0 texts :=
  view_tree.decodeTexts_ofTexts texts

/-! ## Filling in fields -/

/-- The entries give fields their values, in the order of the fields, and take a record from
one state to another without dropping anything. -/
inductive Fills : List (RecordField σ) → List (String × Tree) → σ → σ → Prop where
  | nil {r : σ} : Fills [] [] r r
  | skip {f fields entries r r'} : Fills fields entries r r' → Fills (f :: fields) entries r r'
  | give {f : RecordField σ} {fields value change entries r r'} :
      (f.read value).Gives 0 change → Fills fields entries (change r) r' →
      Fills (f :: fields) ((f.name, value) :: entries) r r'

variable {fields fields' : List (RecordField σ)} {entries entries' : List (String × Tree)}
  {r r' r'' : σ}

/-- Some fields and then others are filled in. -/
theorem Fills.append (h : Fills fields entries r r') (h' : Fills fields' entries' r' r'') :
    Fills (fields ++ fields') (entries ++ entries') r r'' := by
  induction h with
  | nil => exact h'
  | skip _ ih => exact .skip (ih h')
  | give hread _ ih => exact .give hread (ih h')

/-- A field that is always written. -/
theorem fills_required {name : String} {value : Json} {set : α → σ → σ} {a : α}
    (h : (decode value.tree).Gives 0 a) :
    Fills [.of name decode set] (trees [(name, value)]) r (set a r) :=
  .give (h.map set) .nil

/-- A field that is left out when there is nothing to write, and starts with nothing. -/
theorem fills_optional {name : String} {write : α → Json} {value : Option α}
    {set : Option α → σ → σ} (hread : ∀ a, value = some a → (decode (write a).tree).Gives 0 a)
    (hnull : ∀ a, (write a).tree ≠ null) (hnone : set none r = r) :
    Fills [.of name (decodeOption decode) set] (trees (optional name write value)) r
      (set value r) := by
  cases value with
  | none =>
      rw [hnone]
      exact .skip .nil
  | some a =>
      have hoption : (decodeOption decode (write a).tree).Gives 0 (some a) := by
        rw [decodeOption_of_ne_null (hnull a)]
        exact (hread a rfl).map some
      exact .give (hoption.map set) .nil

/-! ## Reading back -/

/-- The names that are written are some of those of the fields, in their order. -/
theorem Fills.keys_sublist (h : Fills fields entries r r') :
    (entries.map Prod.fst).Sublist (fields.map RecordField.name) := by
  induction h with
  | nil => exact .slnil
  | skip _ ih => exact ih.cons _
  | give _ _ ih => exact ih.cons_cons _

/-- What is written for orderly fields has distinct names. -/
theorem Fills.distinctKeys (h : Fills fields entries r r') (horderly : Orderly fields) :
    DistinctKeys entries :=
  distinctKeys_iff_nodup.2 (h.keys_sublist.nodup horderly.names)

/-- Entries that fill a record in are read as the change that leads to it. -/
theorem Fills.exists_reads {given : List (RecordField σ)} (h : Fills given entries r r')
    (hgiven : ∀ f ∈ given, fieldOf? fields f.name = some f) :
    ∃ change, Reads fields entries 0 change ∧ change r = r' := by
  induction h with
  | nil => exact ⟨id, .nil, rfl⟩
  | skip _ ih => exact ih (List.forall_mem_cons.1 hgiven).2
  | give hread _ ih =>
      obtain ⟨hf, hfields⟩ := List.forall_mem_cons.1 hgiven
      obtain ⟨changes, hreads, hchanges⟩ := ih hfields
      exact ⟨changes ∘ _, .field hf hread hreads, hchanges⟩

/-- Entries that belong to no field may follow. -/
theorem Reads.append_strangers {lost : Multiset Nat} {change : σ → σ}
    (h : Reads fields entries lost change) {others : List (String × Tree)}
    (hothers : ∀ e ∈ others, fieldOf? fields e.1 = none) :
    Reads fields (entries ++ others) lost change := by
  induction h with
  | nil =>
      induction others with
      | nil => exact .nil
      | cons e rest ih =>
          obtain ⟨he, hrest⟩ := List.forall_mem_cons.1 hothers
          exact .stranger he (ih hrest)
  | field hf hread _ ih => exact .field hf hread ih
  | stranger hnone _ ih => exact .stranger hnone ih

/-- A name has no field when it is none of theirs. -/
theorem fieldOf?_eq_none_iff {name : String} :
    fieldOf? fields name = none ↔ name ∉ fields.map RecordField.name := by
  simp [fieldOf?]

/-- A record is read back from its entries, in whatever order they are. -/
theorem Fills.decodeRecord_named (h : Fills fields entries r r') (horderly : Orderly fields)
    (hperm : entries.Perm entries') :
    (decodeRecord format fields r (map (named entries'))).Gives 0 r' := by
  have hdistinct := h.distinctKeys horderly
  obtain ⟨change, hreads, hchange⟩ :=
    h.exists_reads fun f hf => fieldOf?_of_mem horderly.names hf
  exact (decodeRecord_map_iff (hdistinct.perm hperm)).2
    ⟨change, hreads.perm horderly.commutes hdistinct hperm, hchange⟩

/-- **A record is read back** from the object that gives its fields, in whatever order these
are seen. -/
theorem Fills.decodeRecord_view {view : Json → Tree} (hview : View view)
    {xs : List (String × Json)} (h : Fills fields (xs.map fun e => (e.1, view e.2)) r r')
    (horderly : Orderly fields) :
    (decodeRecord format fields r (view (.object xs))).Gives 0 r' := by
  obtain ⟨entries, htree, hperm⟩ :=
    hview.object (distinctKeys_map_iff.1 (h.distinctKeys horderly))
  rw [htree]
  exact h.decodeRecord_named horderly hperm

/-- **A record is read back** from the tree of the object that gives its fields. -/
theorem Fills.decodeRecord_object {xs : List (String × Json)} (h : Fills fields (trees xs) r r')
    (horderly : Orderly fields) :
    (decodeRecord format fields r (Json.object xs).tree).Gives 0 r' :=
  h.decodeRecord_view view_tree horderly

/-- A record that shares its object is read back, and leaves the other fields. -/
theorem Fills.exists_decodeOpenRecord {xs others : List (String × Json)}
    (h : Fills fields (trees xs) r r') (horderly : Orderly fields) (hothers : DistinctKeys others)
    (hnames : ∀ e ∈ others, e.1 ∉ fields.map RecordField.name) :
    ∃ others', (trees others).Perm others' ∧
      (decodeOpenRecord format fields r (Json.object (xs ++ others)).tree).Gives 0
        (r', others') := by
  have hknown : ∀ e ∈ trees xs, fieldOf? fields e.1 ≠ none := fun e he hnone =>
    fieldOf?_eq_none_iff.1 hnone (h.keys_sublist.mem (List.mem_map_of_mem he))
  have hstranger : ∀ e ∈ trees others, fieldOf? fields e.1 = none := by
    intro e he
    obtain ⟨x, hx, rfl⟩ := List.mem_map.1 he
    exact fieldOf?_eq_none_iff.2 (hnames x hx)
  have hdistinct : DistinctKeys (trees (xs ++ others)) := by
    rw [trees_append]
    refine (h.distinctKeys horderly).append (distinctKeys_trees_iff.2 hothers) ?_
    intro e he e' he' heq
    exact hknown e he (heq ▸ hstranger e' he')
  have hleft : strangers fields (trees (xs ++ others)) = trees others := by
    rw [trees_append, strangers, List.filter_append, List.filter_eq_nil_iff.2,
      List.filter_eq_self.2, List.nil_append]
    · exact fun e he => Option.isNone_iff_eq_none.2 (hstranger e he)
    · exact fun e he hnone => hknown e he (Option.isNone_iff_eq_none.1 hnone)
  obtain ⟨change, hreads, hchange⟩ :=
    h.exists_reads fun f hf => fieldOf?_of_mem horderly.names hf
  have hall : Reads fields (trees (xs ++ others)) 0 change :=
    trees_append xs others ▸ hreads.append_strangers hstranger
  obtain ⟨entries, htree, hperm⟩ := exists_tree_object (distinctKeys_trees_iff.1 hdistinct)
  refine ⟨strangers fields entries, hleft ▸ hperm.filter _, ?_⟩
  rw [htree]
  refine (decodeOpenRecord_map_iff (hdistinct.perm hperm)).2
    ⟨change, hall.perm horderly.commutes hdistinct hperm, hchange, rfl, fun e he => ?_⟩
  obtain ⟨x, -, rfl⟩ := List.mem_map.1 (hperm.mem_iff.2 (List.mem_of_mem_filter he))
  exact isPlain_ofJson _

end NodeFit.Tree
