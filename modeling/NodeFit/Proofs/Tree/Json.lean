import Mathlib.Data.List.Forall2
import NodeFit.Proofs.Dictionary
import NodeFit.Tree

/-!
# NodeFit.Proofs.Tree.Json

JSON values and trees.

Reading a JSON text brings the fields of every object in ascending order
(`Json.arranged`).  The value of a tree has that order already
(`Json.Settled.arranged_eq`), and making a tree of it and a value of that tree again
changes nothing (`settled_of_toJson?`).

Both directions walk through values, items and fields at once, so that each statement comes in
three parts, one for each of the mutual functions.
-/

namespace NodeFit

open Dictionary (DistinctKeys)

/-! ## Values in order -/

mutual

/-- The value with the fields of every object in ascending order; of two fields with the same
name the later one counts. -/
def Json.arranged : Json → Json
  | .list items => .list (arrangedItems items)
  | .object fields => .ofFields (arrangedFields fields)
  | json => json

/-- The items, with their fields in order. -/
def Json.arrangedItems : List Json → List Json
  | [] => []
  | item :: rest => item.arranged :: arrangedItems rest

/-- The fields, each with its own fields in order. -/
def Json.arrangedFields : List (String × Json) → List (String × Json)
  | [] => []
  | (name, value) :: rest => (name, value.arranged) :: arrangedFields rest

end

theorem Json.arrangedItems_eq_map (items : List Json) :
    arrangedItems items = items.map arranged := by
  induction items with
  | nil => rfl
  | cons item rest ih => rw [arrangedItems, ih, List.map_cons]

theorem Json.arrangedFields_eq_map (fields : List (String × Json)) :
    arrangedFields fields = fields.map fun e => (e.1, e.2.arranged) := by
  induction fields with
  | nil => rfl
  | cons e rest ih => rw [arrangedFields, ih, List.map_cons]

namespace Tree

theorem ofJsonItems_eq_map (items : List Json) : ofJsonItems items = items.map ofJson := by
  induction items with
  | nil => rfl
  | cons item rest ih => rw [ofJsonItems, ih, List.map_cons]

theorem ofJsonFields_eq_map (fields : List (String × Json)) :
    ofJsonFields fields = fields.map fun e => (text e.1, ofJson e.2) := by
  induction fields with
  | nil => rfl
  | cons e rest ih => rw [ofJsonFields, ih, List.map_cons]

mutual

/-- The tree of a JSON value carries no tags. -/
theorem isPlain_ofJson : ∀ j : Json, (ofJson j).isPlain = true
  | .null | .bool _ | .int _ | .float _ | .text _ => rfl
  | .list items => arePlainItems_ofJsonItems items
  | .object fields => arePlainEntries_ofJsonFields fields

theorem arePlainItems_ofJsonItems : ∀ items : List Json, arePlainItems (ofJsonItems items) = true
  | [] => rfl
  | item :: rest => by
      rw [ofJsonItems, arePlainItems, isPlain_ofJson item, arePlainItems_ofJsonItems rest]
      rfl

theorem arePlainEntries_ofJsonFields :
    ∀ fields : List (String × Json), arePlainEntries (ofJsonFields fields) = true
  | [] => rfl
  | (name, value) :: rest => by
      rw [ofJsonFields, arePlainEntries, isPlain_ofJson value, arePlainEntries_ofJsonFields rest]
      rfl

end

/-! ## Values of trees -/

/-- Trees are values when each of them is. -/
theorem toJsonItems?_eq_some_iff {items : List Tree} {js : List Json} :
    toJsonItems? items = some js ↔ List.Forall₂ (fun t j => t.toJson? = some j) items js := by
  induction items generalizing js with
  | nil =>
      rw [toJsonItems?, List.forall₂_nil_left_iff, Option.some.injEq, eq_comm]
  | cons item rest ih =>
      rw [List.forall₂_cons_left_iff]
      simp only [toJsonItems?, Option.bind_eq_bind, Option.bind_eq_some_iff, ih, Option.pure_def,
        Option.some.injEq]
      constructor
      · intro h
        obtain ⟨json, hitem, others, hrest, rfl⟩ := h
        exact ⟨json, others, hitem, hrest, rfl⟩
      · intro h
        obtain ⟨json, others, hitem, hrest, rfl⟩ := h
        exact ⟨json, hitem, others, hrest, rfl⟩

theorem toJsonFields?_cons_eq_some_iff {key value : Tree} {rest : List (Tree × Tree)}
    {fields : List (String × Json)} :
    toJsonFields? ((key, value) :: rest) = some fields ↔ ∃ name json others, key = text name ∧
      value.toJson? = some json ∧ toJsonFields? rest = some others ∧
      fields = (name, json) :: others := by
  cases key <;> simp [toJsonFields?, Option.bind_eq_some_iff, @eq_comm _ fields]

/-- Entries are fields when their keys are texts and their values are values. -/
theorem toJsonFields?_eq_some_iff {entries : List (Tree × Tree)} {fields : List (String × Json)} :
    toJsonFields? entries = some fields ↔
      List.Forall₂ (fun e f => e.1 = text f.1 ∧ e.2.toJson? = some f.2) entries fields := by
  induction entries generalizing fields with
  | nil =>
      rw [toJsonFields?, List.forall₂_nil_left_iff, Option.some.injEq, eq_comm]
  | cons e rest ih =>
      obtain ⟨key, value⟩ := e
      rw [toJsonFields?_cons_eq_some_iff, List.forall₂_cons_left_iff]
      constructor
      · intro h
        obtain ⟨name, json, others, hkey, hvalue, hrest, rfl⟩ := h
        exact ⟨(name, json), others, ⟨hkey, hvalue⟩, ih.1 hrest, rfl⟩
      · intro h
        obtain ⟨f, others, ⟨hkey, hvalue⟩, hrest, rfl⟩ := h
        exact ⟨f.1, f.2, others, hkey, hvalue, ih.2 hrest, rfl⟩

end Tree

/-! ## Settled values -/

namespace Json

/-- Making a tree of the value, and a value of the tree, changes nothing. -/
def Settled (j : Json) : Prop := (Tree.ofJson j).toJson? = some j

/-- A list is settled if its items are. -/
theorem settled_list {items : List Json} (h : ∀ j ∈ items, j.Settled) :
    (Json.list items).Settled := by
  have hitems : Tree.toJsonItems? (Tree.ofJsonItems items) = some items := by
    rw [Tree.toJsonItems?_eq_some_iff, Tree.ofJsonItems_eq_map, List.forall₂_map_left_iff,
      List.forall₂_same]
    exact h
  rw [Settled, Tree.ofJson, Tree.toJson?, hitems]
  rfl

/-- Fields with settled values come back from their entries. -/
theorem toJsonFields?_ofJsonFields {fields : List (String × Json)}
    (h : ∀ f ∈ fields, f.2.Settled) :
    Tree.toJsonFields? (Tree.ofJsonFields fields) = some fields := by
  rw [Tree.toJsonFields?_eq_some_iff, Tree.ofJsonFields_eq_map, List.forall₂_map_left_iff,
    List.forall₂_same]
  exact fun f hf => ⟨rfl, h f hf⟩

/-- An object is settled if the values of its fields are. -/
theorem settled_ofFields {fields : List (String × Json)} (h : ∀ f ∈ fields, f.2.Settled) :
    (Json.ofFields fields).Settled := by
  have hfields := toJsonFields?_ofJsonFields fun f hf => h f (Dictionary.mem_of_mem_ofList hf)
  rw [Settled, ofFields, Tree.ofJson, Tree.toJson?, hfields, Option.map_some, ofFields,
    Dictionary.ofList_toList]

end Json

namespace Tree

mutual

/-- **The value of a tree is settled.** -/
theorem settled_of_toJson? : ∀ {t : Tree} {j : Json}, t.toJson? = some j → j.Settled
  | null, _, h | bool _, _, h | int _, _, h | text _, _, h => by
      rw [← Option.some.inj h]
      rfl
  | float bits, _, h => by
      rw [← Option.some.inj h]
      split
      · next hfinite => exact congrArg some (if_pos hfinite)
      · rfl
  | list items, _, h => by
      obtain ⟨js, hjs, rfl⟩ := Option.map_eq_some_iff.1 h
      exact Json.settled_list (settled_of_toJsonItems? hjs)
  | map entries, _, h => by
      obtain ⟨fields, hfields, rfl⟩ := Option.map_eq_some_iff.1 h
      exact Json.settled_ofFields (settled_of_toJsonFields? hfields)

theorem settled_of_toJsonItems? : ∀ {items : List Tree} {js : List Json},
    toJsonItems? items = some js → ∀ j ∈ js, j.Settled
  | [], _, h => by
      rw [← Option.some.inj h]
      exact fun _ hj => nomatch hj
  | item :: rest, _, h => by
      obtain ⟨_, _, hitem, hrest, rfl⟩ :=
        List.forall₂_cons_left_iff.1 (toJsonItems?_eq_some_iff.1 h)
      exact List.forall_mem_cons.2 ⟨settled_of_toJson? hitem,
        settled_of_toJsonItems? (toJsonItems?_eq_some_iff.2 hrest)⟩

theorem settled_of_toJsonFields? : ∀ {entries : List (Tree × Tree)} {fields : List (String × Json)},
    toJsonFields? entries = some fields → ∀ f ∈ fields, f.2.Settled
  | [], _, h => by
      rw [← Option.some.inj h]
      exact fun _ hf => nomatch hf
  | (key, value) :: rest, _, h => by
      obtain ⟨name, json, others, -, hvalue, hrest, rfl⟩ := toJsonFields?_cons_eq_some_iff.1 h
      exact List.forall_mem_cons.2 ⟨settled_of_toJson? hvalue, settled_of_toJsonFields? hrest⟩

end

end Tree

namespace Json

mutual

/-- A settled value has its fields in order. -/
theorem Settled.arranged_eq : ∀ {j : Json}, j.Settled → j.arranged = j
  | .null, _ | .bool _, _ | .int _, _ | .float _, _ | .text _, _ => rfl
  | .list items, h => by
      obtain ⟨js, hjs, hlist⟩ := Option.map_eq_some_iff.1 h
      have hitems : ∀ j ∈ items, j.Settled :=
        Json.list.inj hlist ▸ Tree.settled_of_toJsonItems? hjs
      rw [arranged, arrangedItems_eq_self hitems]
  | .object fields, h => by
      obtain ⟨settled, hsettled, hobject⟩ := Option.map_eq_some_iff.1 h
      have hsorted : (Dictionary.ofList settled).toList = fields := Json.object.inj hobject
      have hfields : ∀ f ∈ fields, f.2.Settled := fun f hf =>
        Tree.settled_of_toJsonFields? hsettled f (Dictionary.mem_of_mem_ofList (hsorted ▸ hf))
      rw [arranged, arrangedFields_eq_self hfields, ofFields, ← hsorted, Dictionary.ofList_toList]

theorem arrangedItems_eq_self : ∀ {items : List Json}, (∀ j ∈ items, j.Settled) →
    arrangedItems items = items
  | [], _ => rfl
  | item :: rest, h => by
      obtain ⟨hitem, hrest⟩ := List.forall_mem_cons.1 h
      rw [arrangedItems, hitem.arranged_eq, arrangedItems_eq_self hrest]

theorem arrangedFields_eq_self : ∀ {fields : List (String × Json)}, (∀ f ∈ fields, f.2.Settled) →
    arrangedFields fields = fields
  | [], _ => rfl
  | (name, value) :: rest, h => by
      obtain ⟨hvalue, hrest⟩ := List.forall_mem_cons.1 h
      rw [arrangedFields, Settled.arranged_eq hvalue, arrangedFields_eq_self hrest]

end

/-- The tree of the value with its fields in order. -/
def tree (j : Json) : Tree := .ofJson j.arranged

end Json
end NodeFit
