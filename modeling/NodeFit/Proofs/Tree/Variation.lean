import NodeFit.Proofs.Tree.Entries

/-!
# NodeFit.Proofs.Tree.Variation

Changes of a tree that are not seen in what is read from it.

Two lists vary, and two records vary, if some of their parts do: the items of a list
(`ListsVary`), the values of a record under some of its names (`RecordsVary`).  A decoder
ignores a variation (`Ignores`) if it reads from the changed tree what it read before,
though it may drop more on the way.  Lists and records ignore what the decoders of their
parts ignore.

For records the relation is one on readings half way (`ReadingsVary`): the record so far
is the same, and what is left over varies.  Each entry keeps it
(`ReadingsVary.take`), be it one of a field or one that is left over, and so do all of them.
At the end it is read off for closed records (`ignores_decodeRecord`) and for open ones
(`exists_decodeOpenRecord_of_varies`).
-/

namespace NodeFit.Tree

open Decoded (result_bind_iff result_map_iff)

variable {α β σ : Type} {format : Format} {fields : List (RecordField σ)} {t t' : Tree}

/-- What is read from a tree is read from its variants. -/
def Ignores (decode : Tree → Decoded α) (R : Tree → Tree → Prop) : Prop :=
  ∀ ⦃t t' a⦄, R t t' → (decode t).result = .ok a → (decode t').result = .ok a

variable {decode : Tree → Decoded α} {R : Tree → Tree → Prop}

/-- A field ignores what its decoder ignores. -/
theorem Ignores.field (h : Ignores decode R) (name : String) (set : α → σ → σ) :
    Ignores (RecordField.of name decode set).read R := by
  intro t t' change hvary hread
  obtain ⟨a, ha, rfl⟩ := result_map_iff.1 hread
  exact result_map_iff.2 ⟨a, h hvary ha, rfl⟩

/-- What is done with a value does not bring a variation back. -/
theorem Ignores.bind (h : Ignores decode R) (f : α → Decoded β) :
    Ignores (fun t => decode t >>= f) R := by
  intro t t' b hvary hread
  obtain ⟨a, ha, hb⟩ := result_bind_iff.1 hread
  exact result_bind_iff.2 ⟨a, h hvary ha, hb⟩

theorem Ignores.map (h : Ignores decode R) (f : α → β) : Ignores (fun t => f <$> decode t) R :=
  h.bind fun a => pure (f a)

/-- Where null has no variants, what stands for nothing may also be there or not. -/
theorem Ignores.option (h : Ignores decode R) (hnull : ∀ t t', R t t' → t ≠ null ∧ t' ≠ null) :
    Ignores (decodeOption decode) R := by
  intro t t' a hvary hread
  obtain ⟨ht, ht'⟩ := hnull t t' hvary
  rw [decodeOption_of_ne_null ht] at hread
  rw [decodeOption_of_ne_null ht']
  exact h.map some hvary hread

/-! ## Lists -/

/-- Both trees are lists, and their items vary. -/
def ListsVary (format : Format) (R : List Tree → List Tree → Prop) (t t' : Tree) : Prop :=
  ∃ items items', HasItems format t items ∧ HasItems format t' items' ∧ R items items'

/-- Items are read as before if some of them vary. -/
theorem Ignores.items (h : Ignores decode R) {items items' : List Tree}
    (hitems : List.Forall₂ (fun t t' => t = t' ∨ R t t') items items') {values : List α}
    (hread : (decodeItems decode items).result = .ok values) :
    (decodeItems decode items').result = .ok values := by
  rw [decodeItems_result_iff] at hread ⊢
  induction hitems generalizing values with
  | nil => exact hread
  | cons hitem _ ih =>
      cases hread with
      | cons hvalue hrest =>
          refine .cons ?_ (ih hrest)
          obtain rfl | hitem := hitem
          · exact hvalue
          · exact h hitem hvalue

/-- A list ignores what the decoder of its items ignores. -/
theorem Ignores.list (h : Ignores decode R) :
    Ignores (decodeList format decode)
      (ListsVary format (List.Forall₂ fun t t' => t = t' ∨ R t t')) := by
  intro t t' values hvary hread
  obtain ⟨items, items', ht, ht', hitems⟩ := hvary
  rw [ht.decodeList_eq] at hread
  rw [ht'.decodeList_eq]
  exact h.items hitems hread

/-! ## Records -/

section Records

variable (format : Format) (fields : List (RecordField σ)) (S : String → Tree → Tree → Prop)

/-- Two values under a name are the same or vary in the way of that name. -/
def ValuesVary (name : String) (t t' : Tree) : Prop := t = t' ∨ S name t t'

/-- Entries that are left over vary. -/
def EntriesVary (e e' : String × Tree) : Prop := e.1 = e'.1 ∧ ValuesVary S e.1 e.2 e'.2

/-- Entries of a map are the same or vary in the way of the name that their key stands for. -/
def KeyedVary (e e' : Tree × Tree) : Prop :=
  e.1 = e'.1 ∧ (e.2 = e'.2 ∨
    ∃ name, (decodeKey format fields e.1).result = .ok name ∧ S name e.2 e'.2)

/-- Values that are given to fields in order vary. -/
inductive PositionalVary : List (RecordField σ) → List Tree → List Tree → Prop where
  | nil {others : List (RecordField σ)} : PositionalVary others [] []
  | cons {f : RecordField σ} {others : List (RecordField σ)} {value value' values values'} :
      ValuesVary S f.name value value' → PositionalVary others values values' →
      PositionalVary (f :: others) (value :: values) (value' :: values')

/-- Both trees are records with the same keys, and their values vary. -/
inductive RecordsVary : Tree → Tree → Prop where
  | map {t t' entries entries'} : t.stripped format = map entries →
      t'.stripped format = map entries' →
      List.Forall₂ (KeyedVary format fields S) entries entries' → RecordsVary t t'
  | list {values values'} : format = .json → PositionalVary S fields values values' →
      RecordsVary (list values) (list values')

end Records

variable {S : String → Tree → Tree → Prop}

/-- Entries that vary have values that vary in the way of the name that their key stands for. -/
theorem KeyedVary.valuesVary {e e' : Tree × Tree} (h : KeyedVary format fields S e e')
    {name : String} (hkey : (decodeKey format fields e.1).result = .ok name) :
    ValuesVary S name e.2 e'.2 := by
  obtain ⟨-, heq | ⟨name', hkey', hvary⟩⟩ := h
  · exact .inl heq
  · obtain rfl := Except.ok.inj (hkey'.symm.trans hkey)
    exact .inr hvary

theorem stripped_null (format : Format) : null.stripped format = null := by cases format <;> rfl

theorem ne_null_of_map {entries : List (Tree × Tree)} (h : t.stripped format = map entries) :
    t ≠ null := by
  rintro rfl
  rw [stripped_null] at h
  contradiction

theorem RecordsVary.ne_null (h : RecordsVary format fields S t t') : t ≠ null ∧ t' ≠ null := by
  cases h with
  | list => exact ⟨Tree.noConfusion, Tree.noConfusion⟩
  | map ht ht' _ => exact ⟨ne_null_of_map ht, ne_null_of_map ht'⟩

/-- Values under some names vary, those under others do not. -/
def VaryUnder (names : List String) (R : Tree → Tree → Prop) (name : String) (t t' : Tree) : Prop :=
  name ∈ names ∧ R t t'

/-- What a decoder ignores it ignores under any names. -/
theorem Ignores.under (h : Ignores decode R) (names : List String) (name : String) :
    Ignores decode (VaryUnder names R name) :=
  fun _ _ _ hvary hread => h hvary.2 hread

/-- Under other names than the given ones nothing varies. -/
theorem ignores_under_of_not_mem {names : List String} {name : String} (h : name ∉ names) :
    Ignores decode (VaryUnder names R name) :=
  fun _ _ _ hvary _ => absurd hvary.1 h

/-- A decoder that ignores two variations ignores either. -/
theorem Ignores.or {R' : Tree → Tree → Prop} (h : Ignores decode R) (h' : Ignores decode R') :
    Ignores decode fun t t' => R t t' ∨ R' t t' :=
  fun _ _ _ hvary hread => hvary.elim (h · hread) (h' · hread)

/-- Where the names are not found, nothing varies. -/
theorem eq_of_forall₂_under {names : List String} {entries entries' : List (String × Tree)}
    (h : List.Forall₂ (EntriesVary (VaryUnder names R)) entries entries')
    (hnames : ∀ e ∈ entries, e.1 ∉ names) : entries = entries' := by
  induction h with
  | nil => rfl
  | cons he _ ih =>
      obtain ⟨hhead, hrest⟩ := List.forall_mem_cons.1 hnames
      obtain ⟨hname, hvalue | hvary⟩ := he
      · rw [Prod.ext hname hvalue, ih hrest]
      · exact absurd hvary.1 hhead

theorem forall₂_named {entries entries' : List (String × Tree)}
    (h : List.Forall₂ (EntriesVary S) entries entries') :
    List.Forall₂ (KeyedVary format fields S) (named entries) (named entries') := by
  rw [named, named, List.forall₂_map_left_iff, List.forall₂_map_right_iff]
  refine h.imp fun e e' he => ⟨congrArg text he.1, he.2.imp_right fun hvary => ?_⟩
  exact ⟨e.1, congrArg Decoded.result (decodeKey_text format fields e.1), hvary⟩

/-- Records that vary are lists, or are not, alike. -/
theorem RecordsVary.ne_list (h : RecordsVary format fields S t t')
    (ht : ∀ ts, t.stripped format ≠ .list ts) (ts : List Tree) : t'.stripped format ≠ .list ts := by
  cases h with
  | map _ hmap _ => exact fun heq => nomatch hmap.symm.trans heq
  | list hformat _ =>
      subst hformat
      exact absurd rfl (ht _)

/-! ### Half way -/

/-- Two readings differ in what is left over, as far as the values of the names vary.  This is
what one entry keeps, so that all of them keep it. -/
structure ReadingsVary (S : String → Tree → Tree → Prop) (r r' : Reading σ) : Prop where
  seen : r.seen = r'.seen
  record : r.record = r'.record
  others : List.Forall₂ (EntriesVary S) r.others r'.others

variable {r r' r₁ : Reading σ} {value value' : Tree}

/-- A field that ignores the variation leaves readings that vary as before. -/
theorem ReadingsVary.give {f : RecordField σ} (hf : Ignores f.read (S f.name))
    (hr : ReadingsVary S r r') (hvalue : ValuesVary S f.name value value')
    (h : (r.give f value).result = .ok r₁) :
    ∃ r₁', (r'.give f value').result = .ok r₁' ∧ ReadingsVary S r₁ r₁' := by
  rw [Reading.give] at h
  rw [Reading.give, ← hr.seen]
  split at h
  · contradiction
  · next hseen =>
    obtain ⟨change, hchange, rfl⟩ := result_map_iff.1 h
    have hchange' : (f.read value').result = .ok change := by
      obtain rfl | hvalue := hvalue
      · exact hchange
      · exact hf hvalue hchange
    rw [if_neg hseen]
    exact ⟨_, result_map_iff.2 ⟨change, hchange', rfl⟩,
      ⟨rfl, congrArg change hr.record, hr.others⟩⟩

/-- What a record does with entries that belong to none of its fields ignores the variation. -/
def IgnoresOthers (fields : List (RecordField σ)) (S : String → Tree → Tree → Prop)
    (other : String → Tree → Reading σ → Decoded (Reading σ)) : Prop :=
  ∀ ⦃name value value' r r' r₁⦄, fieldOf? fields name = none → ValuesVary S name value value' →
    ReadingsVary S r r' → (other name value r).result = .ok r₁ →
    ∃ r₁', (other name value' r').result = .ok r₁' ∧ ReadingsVary S r₁ r₁'

variable {other : String → Tree → Reading σ → Decoded (Reading σ)}

/-- An entry leaves readings that vary, be it given to a field or left over. -/
theorem ReadingsVary.take (hfields : ∀ f ∈ fields, Ignores f.read (S f.name))
    (hother : IgnoresOthers fields S other) {name : String} (hr : ReadingsVary S r r')
    (hvalue : ValuesVary S name value value')
    (h : (r.take fields other name value).result = .ok r₁) :
    ∃ r₁', (r'.take fields other name value').result = .ok r₁' ∧ ReadingsVary S r₁ r₁' := by
  rw [Reading.take, ← fieldOf?] at h ⊢
  split at h
  · next f hf =>
    obtain ⟨hmem, rfl⟩ := name_of_fieldOf? hf
    exact hr.give (hfields f hmem) hvalue h
  · next hnone => exact hother hnone hvalue hr h

/-- All entries of a map leave readings that vary. -/
theorem ReadingsVary.takeAll (hfields : ∀ f ∈ fields, Ignores f.read (S f.name))
    (hother : IgnoresOthers fields S other) {entries entries' : List (Tree × Tree)}
    (hentries : List.Forall₂ (KeyedVary format fields S) entries entries')
    (hr : ReadingsVary S r r') (h : (r.takeAll format fields other entries).result = .ok r₁) :
    ∃ r₁', (r'.takeAll format fields other entries').result = .ok r₁' ∧ ReadingsVary S r₁ r₁' := by
  induction hentries generalizing r r' with
  | nil =>
      obtain rfl := Except.ok.inj h
      exact ⟨r', rfl, hr⟩
  | @cons e e' _ _ he _ ih =>
      obtain ⟨key, value⟩ := e
      obtain ⟨key', value'⟩ := e'
      obtain rfl : key = key' := he.1
      obtain ⟨name, hkey, hrest⟩ := result_bind_iff.1 h
      obtain ⟨r₂, htake, hrest⟩ := result_bind_iff.1 hrest
      obtain ⟨r₂', htake', hr₂⟩ := hr.take hfields hother (he.valuesVary hkey) htake
      obtain ⟨r₁', hrest', hr₁⟩ := ih hr₂ hrest
      exact ⟨r₁', result_bind_iff.2 ⟨name, hkey, result_bind_iff.2 ⟨r₂', htake', hrest'⟩⟩, hr₁⟩

/-- All values of a list leave readings that vary. -/
theorem ReadingsVary.giveAll (hfields : ∀ f ∈ fields, Ignores f.read (S f.name))
    {values values' : List Tree} (hvalues : PositionalVary S fields values values')
    (hr : ReadingsVary S r r') (h : (r.giveAll fields values).result = .ok r₁) :
    ∃ r₁', (r'.giveAll fields values').result = .ok r₁' ∧ ReadingsVary S r₁ r₁' := by
  induction hvalues generalizing r r' with
  | nil =>
      rw [Reading.giveAll] at h ⊢
      obtain rfl := Except.ok.inj h
      exact ⟨r', rfl, hr⟩
  | cons hvalue _ ih =>
      obtain ⟨hf, hrest⟩ := List.forall_mem_cons.1 hfields
      obtain ⟨r₂, hgive, hothers⟩ := result_bind_iff.1 h
      obtain ⟨r₂', hgive', hr₂⟩ := hr.give hf hvalue hgive
      obtain ⟨r₁', hothers', hr₁⟩ := ih hrest hr₂ hothers
      exact ⟨r₁', result_bind_iff.2 ⟨r₂', hgive', hothers'⟩, hr₁⟩

/-! ### Whole records -/

theorem decodeEntries_of_map {entries : List (Tree × Tree)} (h : t.stripped format = map entries) :
    t.decodeEntries format = pure entries := by
  unfold decodeEntries
  split
  · next heq => rw [map.inj (heq.symm.trans h)]
  · next heq => exact nomatch heq.symm.trans h
  · next hmap _ => exact absurd h (hmap entries)

theorem decodeRecord_of_map {start : σ} {entries : List (Tree × Tree)}
    (h : t.stripped format = map entries) :
    decodeRecord format fields start t = Reading.record <$>
      (Reading.start start).takeAll format fields (fun _ _ r => pure r) entries := by
  cases format with
  | json =>
      obtain rfl : t = map entries := h
      rfl
  | yaml =>
      rw [decodeRecord, decodeEntries_of_map h]
      · rfl
      · exact fun _ _ hformat => Format.noConfusion hformat

/-- Keeps an entry that carries no tag. -/
def keepPlain (name : String) (value : Tree) (r : Reading σ) : Decoded (Reading σ) :=
  if value.isPlain then pure { r with others := (name, value) :: r.others }
  else .expected "a value without a tag"

theorem decodeOpenRecord_of_map {start : σ} {entries : List (Tree × Tree)}
    (h : t.stripped format = map entries) :
    decodeOpenRecord format fields start t = (fun r => (r.record, r.others.reverse)) <$>
      (Reading.start start).takeAll format fields keepPlain entries := by
  rw [decodeOpenRecord, decodeEntries_of_map h]
  rfl

theorem readingsVary_start (record : σ) :
    ReadingsVary S (Reading.start record) (Reading.start record) :=
  ⟨rfl, rfl, .nil⟩

/-- **A record ignores what its fields ignore.** -/
theorem ignores_decodeRecord (hfields : ∀ f ∈ fields, Ignores f.read (S f.name)) (start : σ) :
    Ignores (decodeRecord format fields start) (RecordsVary format fields S) := by
  intro t t' record hvary h
  cases hvary with
  | map ht ht' hentries =>
      have hother : IgnoresOthers fields S fun _ _ r => pure r := by
        intro name value value' r r' r₁ _ _ hr h
        obtain rfl := Except.ok.inj h
        exact ⟨r', rfl, hr⟩
      rw [decodeRecord_of_map ht] at h
      obtain ⟨r, htake, rfl⟩ := result_map_iff.1 h
      obtain ⟨r', htake', hr⟩ :=
        (readingsVary_start start).takeAll hfields hother hentries htake
      rw [decodeRecord_of_map ht']
      exact result_map_iff.2 ⟨r', htake', hr.record.symm⟩
  | list hformat hvalues =>
      subst hformat
      obtain ⟨r, hgive, rfl⟩ := result_map_iff.1 h
      obtain ⟨r', hgive', hr⟩ := (readingsVary_start start).giveAll hfields hvalues hgive
      exact result_map_iff.2 ⟨r', hgive', hr.record.symm⟩

/-- Entries without tags are left over in either tree. -/
theorem ignoresOthers_keepPlain (hplain : ∀ name t t', fieldOf? fields name = none →
      S name t t' → t.isPlain = true → t'.isPlain = true) :
    IgnoresOthers fields S keepPlain := by
  intro name value value' r r' r₁ hnone hvary hr h
  rw [keepPlain] at h
  split at h
  · next hvalue =>
    have hvalue' : value'.isPlain = true := by
      obtain rfl | hvary := hvary
      · exact hvalue
      · exact hplain name value value' hnone hvary hvalue
    obtain rfl := Except.ok.inj h
    rw [keepPlain, if_pos hvalue']
    exact ⟨_, rfl, hr.seen, hr.record, .cons ⟨rfl, hvary⟩ hr.others⟩
  · contradiction

/-- **A record that shares its map ignores what its fields ignore**, and leaves entries that
vary in the same way. -/
theorem exists_decodeOpenRecord_of_varies (hfields : ∀ f ∈ fields, Ignores f.read (S f.name))
    (hplain : ∀ name t t', fieldOf? fields name = none → S name t t' → t.isPlain = true →
      t'.isPlain = true) (hvary : RecordsVary format fields S t t') {start record : σ}
    {others : List (String × Tree)}
    (h : (decodeOpenRecord format fields start t).result = .ok (record, others)) :
    ∃ others', (decodeOpenRecord format fields start t').result = .ok (record, others') ∧
      List.Forall₂ (EntriesVary S) others others' := by
  cases hvary with
  | list hformat _ =>
      subst hformat
      contradiction
  | map ht ht' hentries =>
      rw [decodeOpenRecord_of_map ht] at h
      obtain ⟨r, htake, hparts⟩ := result_map_iff.1 h
      obtain ⟨rfl, rfl⟩ := Prod.mk.inj hparts
      obtain ⟨r', htake', hr⟩ :=
        (readingsVary_start start).takeAll hfields (ignoresOthers_keepPlain hplain) hentries htake
      rw [decodeOpenRecord_of_map ht', hr.record]
      exact ⟨_, result_map_iff.2 ⟨r', htake', rfl⟩, List.forall₂_reverse_iff.2 hr.others⟩

/-! ### What is given -/

/-- The entries of maps that vary do so under the names of their keys. -/
theorem forall₂_keyed {entries entries' : List (Tree × Tree)}
    (h : List.Forall₂ (KeyedVary format fields S) entries entries') :
    List.Forall₂ (EntriesVary S) (keyed format fields entries) (keyed format fields entries') := by
  induction h with
  | nil => exact .nil
  | @cons e e' _ _ he _ ih =>
      rw [keyed, keyed, List.filterMap_cons, List.filterMap_cons, ← he.1]
      cases hkey : (decodeKey format fields e.1).result with
      | error mismatch => exact ih
      | ok name => exact .cons ⟨rfl, he.valuesVary hkey⟩ ih

/-- What varying records give to their fields varies. -/
theorem RecordsVary.given (h : RecordsVary format fields S t t') :
    List.Forall₂ (EntriesVary S) (given format fields t) (given format fields t') := by
  cases h with
  | map ht ht' hentries =>
      rw [given_of_map ht, given_of_map ht']
      exact forall₂_keyed hentries
  | list hformat hvalues =>
      subst hformat
      change List.Forall₂ _ ((fields.map RecordField.name).zip _)
        ((fields.map RecordField.name).zip _)
      induction hvalues with
      | nil => simp
      | cons hvalue _ ih => exact .cons ⟨rfl, hvalue⟩ ih

/-! ### Tags -/

/-- By the rules of JSON a list carries no tag if its items carry none. -/
theorem ListsVary.isPlain {R : List Tree → List Tree → Prop}
    (hR : ∀ ts ts', R ts ts' → (∀ t ∈ ts, t.isPlain = true) → ∀ t ∈ ts', t.isPlain = true)
    (h : ListsVary .json R t t') (ht : t.isPlain = true) : t'.isPlain = true := by
  obtain ⟨ts, ts', hts, hts', hitems⟩ := h
  obtain rfl : t = list ts := hts.eq_list
  obtain rfl : t' = list ts' := hts'.eq_list
  exact arePlainItems_iff.2 (hR ts ts' hitems (arePlainItems_iff.1 ht))

/-- By the rules of JSON a record carries no tag if its values carry none. -/
theorem RecordsVary.isPlain (hS : ∀ name t t', S name t t' → t.isPlain = true → t'.isPlain = true)
    (h : RecordsVary .json fields S t t') (ht : t.isPlain = true) : t'.isPlain = true := by
  cases h with
  | map hmap hmap' hentries =>
      obtain rfl : t = .map _ := hmap
      obtain rfl : t' = .map _ := hmap'
      have hplain := arePlainEntries_iff.1 ht
      refine arePlainEntries_iff.2 fun e' he' => ?_
      obtain ⟨e, he, hkey, hvalue⟩ := Dictionary.exists_mem_of_forall₂ hentries he'
      refine ⟨hkey ▸ (hplain e he).1, ?_⟩
      obtain heq | ⟨name, -, hvary⟩ := hvalue
      · exact heq ▸ (hplain e he).2
      · exact hS name _ _ hvary (hplain e he).2
  | list _ hvalues =>
      refine arePlainItems_iff.2 ?_
      have hplain := arePlainItems_iff.1 ht
      clear ht
      induction hvalues with
      | nil => exact List.forall_mem_nil _
      | cons hvalue _ ih =>
          obtain ⟨hhead, hrest⟩ := List.forall_mem_cons.1 hplain
          refine List.forall_mem_cons.2 ⟨?_, ih hrest⟩
          obtain rfl | hvary := hvalue
          · exact hhead
          · exact hS _ _ _ hvary hhead

end NodeFit.Tree
