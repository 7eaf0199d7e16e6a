import NodeFit.Proofs.Tree.Decoder
import NodeFit.Proofs.Tree.Json

/-!
# NodeFit.Proofs.Tree.View

Ways in which a reader sees a JSON value that was written.

A reader sees texts and lists as they were written, and of an object all fields, in an order
of its own (`View`).  A reader that takes the fields as they come is one (`view_ofJson`), and so
is one that brings them in ascending order first (`view_tree`).

What is shown of any view holds for a text that is read in the order of its fields and for one
that is read into a map first.
-/

namespace NodeFit.Tree

open Dictionary (DistinctKeys distinctKeys_map_iff)

variable {α β : Type} {format : Format} {decode : Tree → Decoded α} {view : Json → Tree}

/-- A way to see JSON values that keeps all that is in them, up to the order of fields. -/
structure View (view : Json → Tree) : Prop where
  null : view .null = null
  text : ∀ s, view (.text s) = text s
  list : ∀ items, view (.list items) = list (items.map view)
  object : ∀ {fields}, DistinctKeys fields → ∃ entries, view (.object fields) = map (named entries) ∧
    (fields.map fun e => (e.1, view e.2)).Perm entries

namespace View

/-- A list that was written item by item is read back. -/
theorem decodeList_map (hview : View view) {write : β → Json} {read : β → α} {bs : List β}
    (h : ∀ b ∈ bs, (decode (view (write b))).Gives 0 (read b)) :
    (decodeList format decode (view (.list (bs.map write)))).Gives 0 (bs.map read) := by
  have hitems : (decodeItems decode ((bs.map write).map view)).Gives 0 (bs.map read) := by
    rw [List.map_map]
    exact decodeItems_map h
  rw [hview.list]
  cases format <;> exact hitems

/-- A dictionary of texts is read back. -/
theorem decodeTexts_ofTexts (hview : View view) (texts : Dictionary String) :
    ((view (.ofTexts texts)).decodeTexts format).Gives 0 texts := by
  have hdistinct : DistinctKeys (texts.toList.map fun e => (e.1, Json.text e.2)) :=
    distinctKeys_map_iff.2 texts.distinct
  obtain ⟨entries, htree, hperm⟩ := hview.object hdistinct
  have hpairs : List.Forall₂ (fun e p => e.1 = p.1 ∧ e.2.stripped format = Tree.text p.2)
      ((texts.toList.map fun e => (e.1, Json.text e.2)).map fun e => (e.1, view e.2))
      texts.toList := by
    rw [List.map_map, List.forall₂_map_left_iff, List.forall₂_same]
    intro e _
    refine ⟨rfl, ?_⟩
    change (view (.text e.2)).stripped format = Tree.text e.2
    rw [hview.text]
    cases format <;> rfl
  obtain ⟨pairs, hpairs', hsame⟩ :=
    Dictionary.exists_forall₂_of_perm hperm texts.distinct hpairs
  rw [Json.ofTexts, htree]
  exact decodeTexts_map_iff.2 ⟨rfl, pairs, hpairs', hsame ▸ Dictionary.ofList_toList texts⟩

end View

/-! ## Readers -/

/-- To take the fields of an object as they come is a view. -/
theorem view_ofJson : View ofJson where
  null := rfl
  text _ := rfl
  list items := by rw [ofJson, ofJsonItems_eq_map]
  object {fields} _ := by
    refine ⟨fields.map fun e => (e.1, ofJson e.2), ?_, .rfl⟩
    rw [ofJson, ofJsonFields_eq_map, named, List.map_map]
    rfl

/-- To bring the fields of an object in ascending order is a view. -/
theorem view_tree : View Json.tree where
  null := rfl
  text _ := rfl
  list items := by
    rw [Json.tree, Json.arranged, ofJson, ofJsonItems_eq_map, Json.arrangedItems_eq_map,
      List.map_map]
    rfl
  object {fields} h := by
    have harranged : DistinctKeys (fields.map fun e => (e.1, e.2.arranged)) :=
      distinctKeys_map_iff.2 h
    have hperm := (Dictionary.toList_ofList_perm harranged).map fun e => (e.1, ofJson e.2)
    rw [List.map_map] at hperm
    refine ⟨_, ?_, hperm.symm⟩
    rw [Json.tree, Json.arranged, Json.arrangedFields_eq_map, Json.ofFields, ofJson,
      ofJsonFields_eq_map, named, List.map_map]
    rfl

end NodeFit.Tree
