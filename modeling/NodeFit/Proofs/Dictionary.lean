import Mathlib.Data.List.Perm.Basic
import NodeFit.Dictionary

/-!
# NodeFit.Proofs.Dictionary

Dictionaries of lists.

Of two pairs with the same key the later one is found (`get?_ofList_cons`).  Where keys are
distinct, a list and its dictionary hold the same pairs (`toList_ofList_perm`), so that the
order of the list does not matter (`ofList_perm`), and a dictionary is that of its own
pairs (`ofList_toList`).  A dictionary is known by its look-ups (`eq_of_get?_eq`).

The last section is about the pairs that are made of other pairs one by one, which is how a map
of a document becomes a dictionary: entries in another order, with distinct keys, make the same
one (`exists_forall₂_of_perm`).
-/

namespace NodeFit.Dictionary

variable {α β : Type}

/-- No two pairs have the same key. -/
def DistinctKeys (entries : List (String × α)) : Prop :=
  entries.Pairwise fun a b => a.1 ≠ b.1

theorem distinctKeys_cons {entry : String × α} {rest : List (String × α)} :
    DistinctKeys (entry :: rest) ↔ (∀ e ∈ rest, entry.1 ≠ e.1) ∧ DistinctKeys rest :=
  List.pairwise_cons

/-- Whether keys are distinct does not depend on the order of the pairs. -/
theorem DistinctKeys.perm {entries entries' : List (String × α)} (h : DistinctKeys entries)
    (hperm : entries.Perm entries') : DistinctKeys entries' :=
  hperm.pairwise h fun hne => hne.symm

theorem DistinctKeys.filter {entries : List (String × α)} (h : DistinctKeys entries)
    (p : String × α → Bool) : DistinctKeys (entries.filter p) :=
  List.Pairwise.filter p h

/-- What is done to the values does not touch the keys. -/
theorem distinctKeys_map_iff {entries : List (String × α)} {f : String × α → β} :
    DistinctKeys (entries.map fun e => (e.1, f e)) ↔ DistinctKeys entries := by
  simp only [DistinctKeys, List.pairwise_map]

/-- Two lists with distinct keys, none of them common, have distinct keys together. -/
theorem DistinctKeys.append {entries entries' : List (String × α)} (h : DistinctKeys entries)
    (h' : DistinctKeys entries') (hne : ∀ e ∈ entries, ∀ e' ∈ entries', e.1 ≠ e'.1) :
    DistinctKeys (entries ++ entries') :=
  List.pairwise_append.2 ⟨h, h', hne⟩

theorem distinctKeys_iff_nodup {entries : List (String × α)} :
    DistinctKeys entries ↔ (entries.map Prod.fst).Nodup := by
  rw [DistinctKeys, List.Nodup, List.pairwise_map]

/-- Entries that are related one by one, with the same keys, have distinct keys together or not at
all. -/
theorem DistinctKeys.forall₂ {entries : List (String × α)} {entries' : List (String × β)}
    {R : String × α → String × β → Prop} (hR : ∀ e e', R e e' → e.1 = e'.1)
    (h : DistinctKeys entries) (hentries : List.Forall₂ R entries entries') :
    DistinctKeys entries' := by
  have hkeys : entries.map Prod.fst = entries'.map Prod.fst := by
    rw [← List.forall₂_eq_eq_eq, List.forall₂_map_left_iff, List.forall₂_map_right_iff]
    exact hentries.imp hR
  rwa [distinctKeys_iff_nodup, ← hkeys, ← distinctKeys_iff_nodup]

/-- A pair of a dictionary after an insertion is the inserted one or was there before. -/
theorem mem_insert {d : Dictionary α} {key : String} {value : α} {e : String × α}
    (h : e ∈ (d.insert key value).toList) : e = (key, value) ∨ e ∈ d.toList := by
  have hget : (d.insert key value).get? e.1 = some e.2 := get?_eq_some_iff.2 h
  rw [get?_insert] at hget
  split at hget
  · next hkey => exact .inl (Prod.ext hkey (Option.some.inj hget).symm)
  · exact .inr (get?_eq_some_iff.1 hget)

/-- After several insertions, a pair was put in by one of them or was there before. -/
theorem mem_of_mem_foldl_insert {entries : List (String × α)} {d : Dictionary α} {e : String × α}
    (h : e ∈ (entries.foldl (fun d entry => d.insert entry.1 entry.2) d).toList) :
    e ∈ entries ∨ e ∈ d.toList := by
  induction entries generalizing d with
  | nil => exact .inr h
  | cons entry rest ih =>
      obtain hrest | hinsert := ih h
      · exact .inl (List.mem_cons_of_mem _ hrest)
      · obtain rfl | hd := mem_insert hinsert
        · exact .inl List.mem_cons_self
        · exact .inr hd

/-- The pairs of a dictionary come from its list. -/
theorem mem_of_mem_ofList {entries : List (String × α)} {e : String × α}
    (h : e ∈ (ofList entries).toList) : e ∈ entries :=
  (mem_of_mem_foldl_insert h).resolve_right List.not_mem_nil

/-- A pair with a new key is added to the others. -/
theorem put_perm {key : String} {value : α} {entries : List (String × α)}
    (h : ∀ e ∈ entries, key ≠ e.1) : (put key value entries).Perm ((key, value) :: entries) := by
  induction entries with
  | nil => rfl
  | cons entry rest ih =>
      obtain ⟨hentry, hrest⟩ := List.forall_mem_cons.1 h
      rw [put, if_neg hentry]
      split
      · rfl
      · exact ((ih hrest).cons entry).trans (.swap ..)

/-- Pairs with new keys that are put in one by one are all there in the end, next to the old ones.
-/
theorem toList_foldl_insert_perm (d : Dictionary α) {entries : List (String × α)}
    (h : DistinctKeys (entries ++ d.toList)) :
    (entries.foldl (fun d entry => d.insert entry.1 entry.2) d).toList.Perm
      (entries ++ d.toList) := by
  induction entries generalizing d with
  | nil => rfl
  | cons entry rest ih =>
      obtain ⟨hentry, hrest⟩ := distinctKeys_cons.1 h
      have hput : (d.insert entry.1 entry.2).toList.Perm (entry :: d.toList) :=
        put_perm fun e he => hentry e (List.mem_append_right _ he)
      have hmove : (rest ++ (d.insert entry.1 entry.2).toList).Perm
          (entry :: (rest ++ d.toList)) :=
        (hput.append_left rest).trans List.perm_middle
      rw [List.foldl_cons]
      exact (ih _ (h.perm hmove.symm)).trans hmove

/-- **A list with distinct keys holds the pairs of its dictionary.** -/
theorem toList_ofList_perm {entries : List (String × α)} (h : DistinctKeys entries) :
    (ofList entries).toList.Perm entries := by
  have hempty : entries ++ (empty : Dictionary α).toList = entries := List.append_nil entries
  have hperm := toList_foldl_insert_perm empty (hempty.symm ▸ h)
  rwa [hempty] at hperm

/-- Pairs in another order, but in ascending order of their keys, are in the same order. -/
theorem eq_of_toList_perm {d e : Dictionary α} (h : d.toList.Perm e.toList) : d = e := by
  obtain ⟨entries, hsorted⟩ := d
  obtain ⟨entries', hsorted'⟩ := e
  obtain rfl : entries = entries' := by
    refine List.Perm.eq_of_pairwise (fun a b _ _ hab hba => ?_) hsorted hsorted' h
    exact absurd (String.lt_trans hab hba) (String.lt_irrefl a.1)
  rfl

theorem nodup_toList (d : Dictionary α) : d.toList.Nodup :=
  d.distinct.imp fun hne heq => hne (congrArg Prod.fst heq)

/-- Dictionaries with the same look-ups are the same. -/
theorem eq_of_get?_eq {d e : Dictionary α} (h : ∀ key, d.get? key = e.get? key) : d = e := by
  refine eq_of_toList_perm ((List.perm_ext_iff_of_nodup d.nodup_toList e.nodup_toList).2 ?_)
  rintro ⟨key, value⟩
  rw [← get?_eq_some_iff, h, get?_eq_some_iff]

/-- The dictionary of a list with distinct keys does not depend on its order. -/
theorem ofList_perm {entries entries' : List (String × α)} (h : DistinctKeys entries)
    (hperm : entries.Perm entries') : ofList entries = ofList entries' :=
  eq_of_toList_perm <| (toList_ofList_perm h).trans <|
    hperm.trans (toList_ofList_perm (h.perm hperm)).symm

/-- What is made of entries one by one comes from one of them. -/
theorem exists_mem_of_forall₂ {entries : List α} {values : List β} {R : α → β → Prop}
    (h : List.Forall₂ R entries values) {b : β} (hb : b ∈ values) : ∃ a ∈ entries, R a b := by
  induction h with
  | nil => contradiction
  | cons hab _ ih =>
      obtain rfl | hb := List.mem_cons.1 hb
      · exact ⟨_, List.mem_cons_self, hab⟩
      · obtain ⟨a, ha, hR⟩ := ih hb
        exact ⟨a, List.mem_cons_of_mem _ ha, hR⟩

/-- Pairs made of entries with distinct keys form the same dictionary in any order of the
entries. -/
theorem exists_forall₂_of_perm {entries entries' : List (String × α)} {pairs : List (String × β)}
    {R : String × α → String × β → Prop} (hperm : entries.Perm entries')
    (hdistinct : DistinctKeys pairs) (h : List.Forall₂ R entries pairs) :
    ∃ pairs', List.Forall₂ R entries' pairs' ∧ ofList pairs = ofList pairs' := by
  obtain ⟨pairs', hpairs', hpermPairs⟩ := List.perm_comp_forall₂ hperm.symm h
  exact ⟨pairs', hpairs', ofList_perm hdistinct hpermPairs.symm⟩

/-- Pairs that are put in later come first. -/
theorem get?_foldl_insert (entries : List (String × α)) (d : Dictionary α) (key : String) :
    (entries.foldl (fun d entry => d.insert entry.1 entry.2) d).get? key =
      ((ofList entries).get? key).or (d.get? key) := by
  induction entries generalizing d with
  | nil => rfl
  | cons entry rest ih =>
      rw [ofList, List.foldl_cons, List.foldl_cons, ih (d.insert _ _), ih (empty.insert _ _),
        get?_insert, get?_insert, get?_empty, Option.or_assoc]
      split <;> simp

/-- The first pair of a list is found under its key, unless a later pair has the same key. -/
theorem get?_ofList_cons (entry : String × α) (rest : List (String × α)) (key : String) :
    (ofList (entry :: rest)).get? key =
      ((ofList rest).get? key).or (if key = entry.1 then some entry.2 else none) := by
  rw [ofList, List.foldl_cons, get?_foldl_insert, get?_insert, get?_empty]

/-- A dictionary is that of its own pairs. -/
theorem ofList_toList (d : Dictionary α) : ofList d.toList = d :=
  eq_of_toList_perm (toList_ofList_perm d.distinct)

end NodeFit.Dictionary
