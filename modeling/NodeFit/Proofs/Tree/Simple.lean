import NodeFit.Proofs.Tree.Json
import NodeFit.Proofs.Tree.Record

/-!
# NodeFit.Proofs.Tree.Simple

Trees that both formats can write.

Such a tree consists of texts, truth values, integers of 64 bits, lists, and maps from
distinct texts (`Simple`).  It is a JSON value (`Simple.exists_toJson?`), and the tree of
that value, its counterpart, differs from it in the order of the entries of maps only
(`Counterpart.alike`).

Null is not among them, since in YAML it stands for an empty list or map as well as for nothing.
Neither are tags, which JSON cannot write, and floating-point numbers.
-/

namespace NodeFit.Tree

open Dictionary (DistinctKeys)

/-- The tree has nothing in it but texts, truth values, integers of 64 bits, signed or not,
lists, and maps from distinct texts. -/
inductive Simple : Tree → Prop where
  | bool (b : Bool) : Simple (bool b)
  | int {n : Int} : -(Nat.pow 2 63 : Int) ≤ n → n < (Nat.pow 2 64 : Int) → Simple (int n)
  | text (s : String) : Simple (text s)
  | list {items : List Tree} : (∀ item ∈ items, Simple item) → Simple (list items)
  | map {entries : List (String × Tree)} : DistinctKeys entries →
      (∀ e ∈ entries, Simple e.2) → Simple (map (named entries))

/-- The second tree is that of the JSON value of the first. -/
structure Counterpart (t u : Tree) : Prop where
  simple : t.Simple
  json : ∃ j, t.toJson? = some j ∧ ofJson j = u

/-- Two entries have the same name and counterparts as values. -/
def EntryCounterpart (e e' : String × Tree) : Prop := e.1 = e'.1 ∧ Counterpart e.2 e'.2

/-- The second entries are counterparts of the first, in some order. -/
def Counterparts (entries entries' : List (String × Tree)) : Prop :=
  DistinctKeys entries ∧
    ∃ middle, List.Forall₂ EntryCounterpart entries middle ∧ middle.Perm entries'

/-- Trees of the same kind whose parts are counterparts. -/
inductive Alike : Tree → Tree → Prop where
  | bool (b : Bool) : Alike (bool b) (bool b)
  | int (n : Int) : Alike (int n) (int n)
  | text (s : String) : Alike (text s) (text s)
  | list {items items' : List Tree} : List.Forall₂ Counterpart items items' →
      Alike (list items) (list items')
  | map {entries entries' : List (String × Tree)} : Counterparts entries entries' →
      Alike (map (named entries)) (map (named entries'))

variable {t u : Tree} {entries entries' : List (String × Tree)}

/-! ## Values -/

theorem exists_toJsonItems? {items : List Tree} (h : ∀ item ∈ items, ∃ j, item.toJson? = some j) :
    ∃ js, toJsonItems? items = some js := by
  induction items with
  | nil => exact ⟨[], rfl⟩
  | cons item rest ih =>
      obtain ⟨⟨j, hitem⟩, hrest⟩ := List.forall_mem_cons.1 h
      obtain ⟨js, hjs⟩ := ih hrest
      exact ⟨j :: js, toJsonItems?_eq_some_iff.2 (.cons hitem (toJsonItems?_eq_some_iff.1 hjs))⟩

/-- Entries under texts are fields when their values are values. -/
theorem toJsonFields?_named_iff {fields : List (String × Json)} :
    toJsonFields? (named entries) = some fields ↔
      List.Forall₂ (fun e f => e.1 = f.1 ∧ e.2.toJson? = some f.2) entries fields := by
  rw [toJsonFields?_eq_some_iff, named, List.forall₂_map_left_iff]
  simp only [text.injEq]

theorem exists_toJsonFields? (h : ∀ e ∈ entries, ∃ j, e.2.toJson? = some j) :
    ∃ fields, toJsonFields? (named entries) = some fields := by
  induction entries with
  | nil => exact ⟨[], rfl⟩
  | cons e rest ih =>
      obtain ⟨⟨j, hvalue⟩, hrest⟩ := List.forall_mem_cons.1 h
      obtain ⟨fields, hfields⟩ := ih hrest
      exact ⟨(e.1, j) :: fields,
        toJsonFields?_named_iff.2 (.cons ⟨rfl, hvalue⟩ (toJsonFields?_named_iff.1 hfields))⟩

/-- **A simple tree is a JSON value.** -/
theorem Simple.exists_toJson? (h : t.Simple) : ∃ j, t.toJson? = some j := by
  induction h with
  | bool b => exact ⟨_, rfl⟩
  | int _ _ => exact ⟨_, rfl⟩
  | text s => exact ⟨_, rfl⟩
  | list _ ih =>
      obtain ⟨js, hjs⟩ := exists_toJsonItems? ih
      exact ⟨.list js, by rw [toJson?, hjs]; rfl⟩
  | map _ _ ih =>
      obtain ⟨fields, hfields⟩ := exists_toJsonFields? ih
      exact ⟨.ofFields fields, by rw [toJson?, hfields]; rfl⟩

/-! ## Counterparts -/

/-- Simple items have counterparts in the trees of their values. -/
theorem counterparts_of_forall₂ {items : List Tree} {js : List Json}
    (hsimple : ∀ item ∈ items, item.Simple)
    (h : List.Forall₂ (fun t j => t.toJson? = some j) items js) :
    List.Forall₂ Counterpart items (js.map ofJson) := by
  rw [List.forall₂_map_right_iff]
  have hboth := (List.forall₂_and_left _ _).2 ⟨hsimple, h⟩
  exact hboth.imp fun item j hj => ⟨hj.1, j, hj.2, rfl⟩

/-- The entries of a simple map are counterparts of those of its value. -/
theorem counterparts_of_toJsonFields? {fields : List (String × Json)}
    (hdistinct : DistinctKeys entries) (hsimple : ∀ e ∈ entries, e.2.Simple)
    (h : toJsonFields? (named entries) = some fields) :
    Counterparts entries
      ((Dictionary.ofList fields).toList.map fun f => (f.1, ofJson f.2)) := by
  have hfields := toJsonFields?_named_iff.1 h
  have hperm : (Dictionary.ofList fields).toList.Perm fields :=
    Dictionary.toList_ofList_perm (hdistinct.forall₂ (fun _ _ h => h.1) hfields)
  refine ⟨hdistinct, fields.map fun f => (f.1, ofJson f.2), ?_, (hperm.map _).symm⟩
  rw [List.forall₂_map_right_iff]
  have hboth := (List.forall₂_and_left _ _).2 ⟨hsimple, hfields⟩
  exact hboth.imp fun e f hf => ⟨hf.2.1, hf.1, f.2, hf.2.2, rfl⟩

/-- A simple tree and its counterpart are of one kind, and their parts are counterparts. -/
theorem Counterpart.alike (h : Counterpart t u) : Alike t u := by
  obtain ⟨hsimple, j, hj, rfl⟩ := h
  cases hsimple with
  | bool b =>
      obtain rfl := Option.some.inj hj
      exact .bool b
  | int _ _ =>
      obtain rfl := Option.some.inj hj
      exact .int _
  | text s =>
      obtain rfl := Option.some.inj hj
      exact .text s
  | list hitems =>
      obtain ⟨js, hjs, rfl⟩ := Option.map_eq_some_iff.1 hj
      rw [ofJson, ofJsonItems_eq_map]
      exact .list (counterparts_of_forall₂ hitems (toJsonItems?_eq_some_iff.1 hjs))
  | map hdistinct hvalues =>
      obtain ⟨fields, hfields, rfl⟩ := Option.map_eq_some_iff.1 hj
      have htree : ofJson (.ofFields fields) = map (named
          ((Dictionary.ofList fields).toList.map fun f => (f.1, ofJson f.2))) := by
        rw [Json.ofFields, ofJson, ofJsonFields_eq_map, named, List.map_map]
        rfl
      rw [htree]
      exact .map (counterparts_of_toJsonFields? hdistinct hvalues hfields)

end NodeFit.Tree
