import NodeFit.Proofs.Tree.Decoder
import NodeFit.Proofs.Tree.Simple

/-!
# NodeFit.Proofs.Tree.Formats

Reading simple trees by the rules of either format and by those of JSON.

A decoder follows another (`Follows`) if it reads from the counterpart of a simple tree
what the other reads from the tree, and drops as much.  Each way of putting decoders
together keeps this, with the rules of JSON on the side that follows.  In a record it
takes fields that do not get into each other's way, since a counterpart has its entries
in another order.

By the rules of JSON a record may also be given as the list of its values; the counterpart is then
a list too, and the values go to the same fields (`zip_entryCounterpart`).  What a record leaves
over has counterparts in what the other leaves (`exists_decodeOpenRecord`).
-/

namespace NodeFit.Tree

open Decoded (gives_bind_iff gives_map_iff not_gives_expected)

variable {α β σ : Type} {t u : Tree} {lost : Multiset Nat}

/-- What the first decoder reads from a tree, the second reads from its counterpart. -/
def Follows (decode decode' : Tree → Decoded α) : Prop :=
  ∀ ⦃t u lost a⦄, Counterpart t u → (decode t).Gives lost a → (decode' u).Gives lost a

variable {format : Format} {decode decode' : Tree → Decoded α}

/-! ## Scalars and lists -/

theorem Simple.stripped_eq (h : t.Simple) : t.stripped format = t := by
  cases format with
  | json => rfl
  | yaml => cases h <;> rfl

theorem Alike.ne_null (h : Alike t u) : t ≠ null ∧ u ≠ null := by
  cases h <;> exact ⟨Tree.noConfusion, Tree.noConfusion⟩

/-- A text is read alike. -/
theorem follows_decodeText : Follows (decodeText format) (decodeText .json) := by
  intro t u lost s h hgives
  obtain ⟨rfl, htext⟩ := decodeText_gives_iff.1 hgives
  obtain rfl : t = text s := h.simple.stripped_eq.symm.trans htext
  cases h.alike
  exact decodeText_gives_iff.2 ⟨rfl, rfl⟩

theorem Follows.map (h : Follows decode decode') (f : α → β) :
    Follows (fun t => f <$> decode t) (fun t => f <$> decode' t) := by
  intro t u lost b hcounterpart hgives
  obtain ⟨a, ha, rfl⟩ := gives_map_iff.1 hgives
  exact (h hcounterpart ha).map f

theorem Follows.bind (h : Follows decode decode') (f : α → Decoded β) :
    Follows (fun t => decode t >>= f) (fun t => decode' t >>= f) := by
  intro t u lost b hcounterpart hgives
  obtain ⟨a, first, second, ha, hb, rfl⟩ := gives_bind_iff.1 hgives
  exact (h hcounterpart ha).bind hb

/-- A value that may be missing is read alike if the value is. -/
theorem Follows.option (h : Follows decode decode') :
    Follows (decodeOption decode) (decodeOption decode') := by
  intro t u lost a hcounterpart hgives
  obtain ⟨ht, hu⟩ := hcounterpart.alike.ne_null
  rw [decodeOption_of_ne_null ht] at hgives
  rw [decodeOption_of_ne_null hu]
  exact h.map some hcounterpart hgives

/-- Items are read alike if each of them is. -/
theorem Follows.items (h : Follows decode decode') {items items' : List Tree}
    (hitems : List.Forall₂ Counterpart items items') {values : List α}
    (hgives : (decodeItems decode items).Gives lost values) :
    (decodeItems decode' items').Gives lost values := by
  induction hitems generalizing lost values with
  | nil => exact hgives
  | cons hitem _ ih =>
      obtain ⟨value, others, first, second, hvalue, hothers, rfl, rfl⟩ :=
        decodeItems_cons_gives_iff.1 hgives
      exact decodeItems_cons_gives_iff.2
        ⟨value, others, first, second, h hitem hvalue, ih hothers, rfl, rfl⟩

/-- A list is read alike if its items are. -/
theorem Follows.list (h : Follows decode decode') :
    Follows (decodeList format decode) (decodeList .json decode') := by
  intro t u lost values hcounterpart hgives
  cases hcounterpart.alike with
  | list hitems => cases format <;> exact h.items hitems hgives
  | bool _ | int _ | text _ | map _ => cases format <;> exact absurd hgives not_gives_expected

/-! ## Maps -/

/-- Pairs made of entries, made of their counterparts as well, form the same dictionary. -/
theorem Counterparts.exists_pairs {entries entries' : List (String × Tree)}
    {P Q : Tree → β → Prop} (hPQ : ∀ t u b, Counterpart t u → P t b → Q u b)
    (h : Counterparts entries entries') {pairs : List (String × β)}
    (hpairs : List.Forall₂ (fun e p => e.1 = p.1 ∧ P e.2 p.2) entries pairs) :
    ∃ pairs', List.Forall₂ (fun e p => e.1 = p.1 ∧ Q e.2 p.2) entries' pairs' ∧
      Dictionary.ofList pairs = Dictionary.ofList pairs' := by
  obtain ⟨hdistinct, middle, hmiddle, hperm⟩ := h
  have hmiddlePairs : List.Forall₂ (fun e p => e.1 = p.1 ∧ Q e.2 p.2) middle pairs := by
    clear hperm hdistinct
    induction hmiddle generalizing pairs with
    | nil => rwa [List.forall₂_nil_left_iff] at hpairs ⊢
    | cons he _ ih =>
        cases hpairs with
        | cons hp hrest => exact .cons ⟨he.1.symm.trans hp.1, hPQ _ _ _ he.2 hp.2⟩ (ih hrest)
  have hpairsDistinct := hdistinct.forall₂ (fun _ _ h => h.1) hpairs
  exact Dictionary.exists_forall₂_of_perm hperm hpairsDistinct hmiddlePairs

/-- A map of texts is read alike. -/
theorem follows_decodeTexts : Follows (decodeTexts format) (decodeTexts .json) := by
  intro t u lost texts h hgives
  cases h.alike with
  | map hentries =>
      obtain ⟨rfl, pairs, hpairs, rfl⟩ := decodeTexts_map_iff.1 hgives
      have htext (t u : Tree) (s : String) (h : Counterpart t u) (ht : t.stripped format = text s) :
          u.stripped .json = text s :=
        (decodeText_gives_iff.1 (follows_decodeText h (decodeText_gives_iff.2 ⟨rfl, ht⟩))).2
      obtain ⟨pairs', hpairs', hsame⟩ := hentries.exists_pairs htext hpairs
      exact decodeTexts_map_iff.2 ⟨rfl, pairs', hpairs', hsame.symm⟩
  | bool _ | int _ | text _ | list _ => cases format <;> exact nomatch hgives.result

theorem zip_entryCounterpart {names : List String} {items items' : List Tree}
    (h : List.Forall₂ Counterpart items items') :
    List.Forall₂ EntryCounterpart (names.zip items) (names.zip items') := by
  induction h generalizing names with
  | nil =>
      rw [List.zip_nil_right]
      exact .nil
  | cons hitem _ ih =>
      cases names with
      | nil => exact .nil
      | cons name names => exact .cons ⟨rfl, hitem⟩ ih

theorem isPlain_of_counterpart {entries middle : List (String × Tree)}
    (h : List.Forall₂ EntryCounterpart entries middle) {e : String × Tree} (he : e ∈ middle) :
    e.2.isPlain = true := by
  obtain ⟨_, -, -, hcounterpart⟩ := Dictionary.exists_mem_of_forall₂ h he
  obtain ⟨j, -, hj⟩ := hcounterpart.json
  exact hj ▸ isPlain_ofJson j

/-! ## Records -/

/-- A field that is read as another of the same name. -/
structure RecordField.Follows (f f' : RecordField σ) : Prop where
  name : f.name = f'.name
  read : Tree.Follows f.read f'.read

/-- A field is read alike if its value is. -/
theorem Follows.field (h : Follows decode decode') (name : String) (set : α → σ → σ) :
    (RecordField.of name decode set).Follows (.of name decode' set) :=
  ⟨rfl, h.map set⟩

variable {fields fields' : List (RecordField σ)}

/-- A name finds fields that are read alike on both sides, or none on either. -/
theorem fieldOf?_follows (h : List.Forall₂ RecordField.Follows fields fields') (name : String) :
    Option.Rel RecordField.Follows (fieldOf? fields name) (fieldOf? fields' name) := by
  induction h with
  | nil => exact .none
  | cons hf _ ih =>
      rw [fieldOf?, fieldOf?, List.find?_cons, List.find?_cons, ← hf.name]
      split
      · exact .some hf
      · exact ih

theorem fieldOf?_eq_some_follows (h : List.Forall₂ RecordField.Follows fields fields')
    {name : String} {f : RecordField σ} (hf : fieldOf? fields name = some f) :
    ∃ f', fieldOf? fields' name = some f' ∧ f.Follows f' := by
  have hrel := fieldOf?_follows h name
  rw [hf] at hrel
  cases hf' : fieldOf? fields' name with
  | none => rw [hf'] at hrel; cases hrel
  | some f' =>
      rw [hf'] at hrel
      cases hrel with
      | some hfollows => exact ⟨f', rfl, hfollows⟩

theorem isNone_fieldOf?_follows (h : List.Forall₂ RecordField.Follows fields fields')
    (name : String) : (fieldOf? fields name).isNone = (fieldOf? fields' name).isNone := by
  have hrel := fieldOf?_follows h name
  cases hf : fieldOf? fields name <;> cases hf' : fieldOf? fields' name <;>
    rw [hf, hf'] at hrel <;> first | rfl | cases hrel

variable {entries entries' : List (String × Tree)} {change : σ → σ}

/-- Counterparts of entries do the same to a record. -/
theorem Reads.follows (hfields : List.Forall₂ RecordField.Follows fields fields')
    (hentries : List.Forall₂ EntryCounterpart entries entries')
    (h : Reads fields entries lost change) : Reads fields' entries' lost change := by
  induction hentries generalizing lost change with
  | nil =>
      cases h
      exact .nil
  | @cons e e' _ _ he _ ih =>
      obtain ⟨name, value⟩ := e
      obtain ⟨_, value'⟩ := e'
      obtain ⟨rfl, hvalue⟩ := he
      cases h with
      | field hf hread h =>
          obtain ⟨f', hf', hfollows⟩ := fieldOf?_eq_some_follows hfields hf
          exact .field hf' (hfollows.read hvalue hread) (ih h)
      | stranger hnone h =>
          have hnone' := isNone_fieldOf?_follows hfields name
          rw [hnone] at hnone'
          exact .stranger (Option.isNone_iff_eq_none.1 hnone'.symm) (ih h)

/-- Counterparts of the entries that belong to no field belong to none either. -/
theorem strangers_follows (hfields : List.Forall₂ RecordField.Follows fields fields')
    (hentries : List.Forall₂ EntryCounterpart entries entries') :
    List.Forall₂ EntryCounterpart (strangers fields entries) (strangers fields' entries') := by
  refine List.rel_filter (fun e e' he => ?_) hentries
  change (fieldOf? fields e.1).isNone = true ↔ (fieldOf? fields' e'.1).isNone = true
  rw [he.1, isNone_fieldOf?_follows hfields]

variable {start record : σ}

/-- A record is read from counterparts of its entries. -/
theorem Counterparts.decodeRecord (h : Counterparts entries entries')
    (hfields : List.Forall₂ RecordField.Follows fields fields')
    (horderly : Orderly fields')
    (hgives : (decodeRecord format fields start (map (named entries))).Gives lost record) :
    (decodeRecord .json fields' start (map (named entries'))).Gives lost record := by
  obtain ⟨hdistinct, middle, hmiddle, hperm⟩ := h
  obtain ⟨change, hreads, hchange⟩ := (decodeRecord_map_iff hdistinct).1 hgives
  have hmiddleDistinct := hdistinct.forall₂ (fun _ _ h => h.1) hmiddle
  have hreads' := (hreads.follows hfields hmiddle).perm horderly.commutes hmiddleDistinct hperm
  exact (decodeRecord_map_iff (hmiddleDistinct.perm hperm)).2 ⟨change, hreads', hchange⟩

/-- **A record is read alike** if its fields are, and do not get into each other's way. -/
theorem follows_decodeRecord (hfields : List.Forall₂ RecordField.Follows fields fields')
    (horderly : Orderly fields') :
    Follows (decodeRecord format fields start) (decodeRecord .json fields' start) := by
  intro t u lost record h hgives
  have hnames : fields.map RecordField.name = fields'.map RecordField.name := by
    rw [← List.forall₂_eq_eq_eq, List.forall₂_map_left_iff, List.forall₂_map_right_iff]
    exact hfields.imp fun f f' hf => hf.name
  cases h.alike with
  | map hentries => exact hentries.decodeRecord hfields horderly hgives
  | list hitems =>
      cases format with
      | yaml => exact nomatch hgives.result
      | json =>
          obtain ⟨hlength, change, hreads, hchange⟩ :=
            (decodeRecord_list_iff (hnames ▸ horderly.names)).1 hgives
          refine (decodeRecord_list_iff horderly.names).2 ⟨?_, change, ?_, hchange⟩
          · rwa [← hitems.length_eq, ← hfields.length_eq]
          · refine hreads.follows hfields ?_
            rw [hnames]
            exact zip_entryCounterpart hitems
  | bool _ | int _ | text _ => cases format <;> exact nomatch hgives.result

/-- A record that shares its map leaves the counterparts of what it leaves. -/
theorem exists_decodeOpenRecord (hfields : List.Forall₂ RecordField.Follows fields fields')
    (horderly : Orderly fields') (h : Counterpart t u)
    {others : List (String × Tree)}
    (hgives : (decodeOpenRecord format fields start t).Gives lost (record, others)) :
    ∃ others', Counterparts others others' ∧
      (decodeOpenRecord .json fields' start u).Gives lost (record, others') := by
  cases h.alike with
  | map hentries =>
      obtain ⟨hdistinct, middle, hmiddle, hperm⟩ := hentries
      obtain ⟨change, hreads, hchange, rfl, hplain⟩ := (decodeOpenRecord_map_iff hdistinct).1 hgives
      have hmiddleDistinct := hdistinct.forall₂ (fun _ _ h => h.1) hmiddle
      have hreads' := (hreads.follows hfields hmiddle).perm horderly.commutes hmiddleDistinct hperm
      refine ⟨strangers fields' _, ⟨hdistinct.filter _, strangers fields' middle,
        strangers_follows hfields hmiddle, hperm.filter _⟩,
        (decodeOpenRecord_map_iff (hmiddleDistinct.perm hperm)).2
          ⟨change, hreads', hchange, rfl, fun e he => ?_⟩⟩
      exact isPlain_of_counterpart hmiddle (hperm.mem_iff.2 (List.mem_of_mem_filter he))
  | bool _ | int _ | text _ | list _ => cases format <;> exact nomatch hgives.result

end NodeFit.Tree
