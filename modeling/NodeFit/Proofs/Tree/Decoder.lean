import Mathlib.Data.List.Forall2
import NodeFit.Proofs.Tree.Record

/-!
# NodeFit.Proofs.Tree.Decoder

What scalars, lists and maps of texts are read as.

Texts are read from texts and drop nothing (`decodeText_gives_iff`).  The items of a list are
read one by one (`decodeItems_result_iff`), and so are the pairs of a map from texts to texts,
whose dictionary is then made of them (`decodeTexts_map_iff`).
-/

namespace NodeFit.Tree

open Decoded (gives_cons_iff gives_map_iff gives_pure_iff not_gives_expected result_bind_iff
  result_eq_ok_iff)

variable {α : Type} {format : Format} {decode : Tree → Decoded α} {t : Tree} {lost : Multiset Nat}

/-! ## Scalars -/

/-- A text is read from a text, and from nothing else. -/
theorem decodeText_gives_iff {s : String} :
    (t.decodeText format).Gives lost s ↔ lost = 0 ∧ t.stripped format = text s := by
  rw [decodeText]
  cases t.stripped format <;> simp

theorem decodeOption_of_ne_null (h : t ≠ null) : t.decodeOption decode = some <$> decode t := by
  cases t with
  | null => exact absurd rfl h
  | _ => rfl

/-! ## Lists -/

/-- The first item of a list is read, and then the others. -/
theorem decodeItems_cons_gives_iff {item : Tree} {rest : List Tree} {values : List α} :
    (decodeItems decode (item :: rest)).Gives lost values ↔
      ∃ value others first second, (decode item).Gives first value ∧
        (decodeItems decode rest).Gives second others ∧ first + second = lost ∧
        value :: others = values :=
  gives_cons_iff

/-- The values of a list are read one by one. -/
theorem decodeItems_result_iff {items : List Tree} {values : List α} :
    (decodeItems decode items).result = .ok values ↔
      List.Forall₂ (fun item value => (decode item).result = .ok value) items values := by
  induction items generalizing values with
  | nil => exact ⟨fun h => Except.ok.inj h ▸ .nil, fun h => by cases h; rfl⟩
  | cons item rest ih =>
      rw [decodeItems, result_bind_iff, List.forall₂_cons_left_iff]
      refine exists_congr fun value => ?_
      simp only [result_bind_iff, ih]
      constructor
      · intro h
        obtain ⟨hvalue, others, hothers, hvalues⟩ := h
        exact ⟨others, hvalue, hothers, (Except.ok.inj hvalues).symm⟩
      · intro h
        obtain ⟨others, hvalue, hothers, rfl⟩ := h
        exact ⟨hvalue, others, hothers, rfl⟩

/-- A list is read if each of its items is. -/
theorem exists_decodeItems {items : List Tree}
    (h : ∀ item ∈ items, ∃ value, (decode item).result = .ok value) :
    ∃ values, (decodeItems decode items).result = .ok values := by
  induction items with
  | nil => exact ⟨[], rfl⟩
  | cons item rest ih =>
      obtain ⟨⟨value, hvalue⟩, hrest⟩ := List.forall_mem_cons.1 h
      obtain ⟨values, hvalues⟩ := ih hrest
      exact ⟨value :: values,
        decodeItems_result_iff.2 (.cons hvalue (decodeItems_result_iff.1 hvalues))⟩

/-- Every value of a list comes from an item. -/
theorem exists_of_decodeItems {items : List Tree} {values : List α}
    (h : (decodeItems decode items).Gives lost values) {value : α} (hvalue : value ∈ values) :
    ∃ item first, (decode item).Gives first value := by
  have hread := decodeItems_result_iff.1 h.result
  obtain ⟨item, -, hitem⟩ := Dictionary.exists_mem_of_forall₂ hread hvalue
  exact ⟨item, result_eq_ok_iff.1 hitem⟩

/-- Every value of a list was read from something. -/
theorem exists_of_decodeList {values : List α} (h : (decodeList format decode t).Gives lost values)
    {value : α} (hvalue : value ∈ values) : ∃ item first, (decode item).Gives first value := by
  unfold decodeList at h
  split at h
  · exact exists_of_decodeItems h hvalue
  · obtain ⟨-, rfl⟩ := gives_pure_iff.1 h
    contradiction
  · exact absurd h not_gives_expected

/-- Items written one by one are read one by one. -/
theorem decodeItems_map {β : Type} {write : β → Tree} {read : β → α} {bs : List β}
    (h : ∀ b ∈ bs, (decode (write b)).Gives 0 (read b)) :
    (decodeItems decode (bs.map write)).Gives 0 (bs.map read) := by
  induction bs with
  | nil => exact Decoded.gives_pure []
  | cons b rest ih =>
      obtain ⟨hb, hrest⟩ := List.forall_mem_cons.1 h
      exact decodeItems_cons_gives_iff.2 ⟨read b, rest.map read, 0, 0, hb, ih hrest, rfl, rfl⟩

/-! ## Maps of texts -/

/-- The pairs of a map are read when all values are texts. -/
theorem decodeTextPairs_named_iff {entries : List (String × Tree)}
    {pairs : List (String × String)} :
    (decodeTextPairs format (named entries)).Gives lost pairs ↔
      lost = 0 ∧ List.Forall₂ (fun e p => e.1 = p.1 ∧ e.2.stripped format = text p.2)
        entries pairs := by
  induction entries generalizing lost pairs with
  | nil => simp [named, decodeTextPairs, eq_comm]
  | cons e rest ih =>
      have hkey : (text e.1).decodeText format = pure e.1 := by cases format <;> rfl
      have hcons : decodeTextPairs format (named (e :: rest)) = (do
          let value ← e.2.decodeText format
          let pairs ← decodeTextPairs format (named rest)
          return (e.1, value) :: pairs) := by
        rw [named, List.map_cons, decodeTextPairs, hkey]
        rfl
      rw [hcons, gives_cons_iff, List.forall₂_cons_left_iff]
      simp only [decodeText_gives_iff, ih]
      constructor
      · intro h
        obtain ⟨value, others, _, _, ⟨rfl, hvalue⟩, ⟨rfl, hothers⟩, rfl, rfl⟩ := h
        exact ⟨rfl, (e.1, value), others, ⟨rfl, hvalue⟩, hothers, rfl⟩
      · intro h
        obtain ⟨rfl, p, others, ⟨hname, hvalue⟩, hothers, rfl⟩ := h
        exact ⟨p.2, others, 0, 0, ⟨rfl, hvalue⟩, ⟨rfl, hothers⟩, rfl, by rw [hname]⟩

/-- A map of texts is read as the dictionary of its pairs. -/
theorem decodeTexts_map_iff {entries : List (String × Tree)} {texts : Dictionary String} :
    ((map (named entries)).decodeTexts format).Gives lost texts ↔
      lost = 0 ∧ ∃ pairs, List.Forall₂ (fun e p => e.1 = p.1 ∧ e.2.stripped format = text p.2)
        entries pairs ∧ .ofList pairs = texts := by
  have hread : (map (named entries)).decodeTexts format =
      Dictionary.ofList <$> decodeTextPairs format (named entries) := by
    cases format <;> rfl
  rw [hread, gives_map_iff]
  simp only [decodeTextPairs_named_iff, and_assoc, exists_and_left]

end NodeFit.Tree
