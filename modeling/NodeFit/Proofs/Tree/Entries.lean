import NodeFit.Proofs.Tree.Decoder
import NodeFit.Proofs.Tree.Invariant

/-!
# NodeFit.Proofs.Tree.Entries

What a tree gives to the fields of a record, however it is written.

The values of a list go to the fields in their order, and those of a map to the fields that its
keys stand for (`given`).  A record that can be read is what these entries make of it
(`reads_of_decodeRecord`), and a record that shares its map leaves those that belong to none of
its fields (`reads_of_decodeOpenRecord`).

`NodeFit.Proofs.Tree.Record` has both directions for entries under distinct texts.  Here the record
is known to be read, so that the names are distinct anyway, and a key need not be a text: by the
rules of JSON a number stands for the field at its position.
-/

namespace NodeFit.Tree

open Decoded (gives_bind_iff gives_map_iff gives_pure_iff not_gives_expected)

variable {α σ : Type} {format : Format} {fields : List (RecordField σ)} {lost : Multiset Nat}
  {t : Tree}

/-! ## Items and entries -/

/-- The items of a list. -/
def items (format : Format) (t : Tree) : List Tree :=
  match t.stripped format with
  | list items => items
  | _ => []

/-- The tree is a list of items.  In YAML a null is one without any. -/
inductive HasItems (format : Format) (t : Tree) : List Tree → Prop where
  | list {ts : List Tree} : t.stripped format = list ts → HasItems format t ts
  | null : format = .yaml → t.stripped format = null → HasItems format t []

/-- The entries of a map, under the names that their keys stand for. -/
def keyed (format : Format) (fields : List (RecordField σ)) (entries : List (Tree × Tree)) :
    List (String × Tree) :=
  entries.filterMap fun e =>
    (decodeKey format fields e.1).result.toOption.map fun name => (name, e.2)

/-- What a tree gives to the fields of a record, with what it gives to others. -/
def given (format : Format) (fields : List (RecordField σ)) (t : Tree) : List (String × Tree) :=
  match t, format with
  | list values, .json => (fields.map RecordField.name).zip values
  | t, format =>
    match t.stripped format with
    | map entries => keyed format fields entries
    | _ => []

/-- Reading a key drops nothing. -/
theorem decodeKey_gives {key : Tree} {name : String}
    (h : (decodeKey format fields key).Gives lost name) :
    lost = 0 ∧ (decodeKey format fields key).result.toOption = some name := by
  refine ⟨?_, by rw [h.result]; rfl⟩
  unfold decodeKey at h
  split at h
  · split at h
    · exact (gives_pure_iff.1 h).1
    · exact absurd h not_gives_expected
  · exact (decodeText_gives_iff.1 h).1

theorem HasItems.items_eq {ts : List Tree} (h : HasItems format t ts) : items format t = ts := by
  cases h with
  | list h => rw [items, h]
  | null _ h => rw [items, h]

theorem HasItems.eq_list {ts : List Tree} (h : HasItems .json t ts) : t = .list ts := by
  cases h with
  | list h => exact h
  | null hformat _ => contradiction

/-- A list is read by its items. -/
theorem HasItems.decodeList_eq {decode : Tree → Decoded α} {ts : List Tree}
    (h : HasItems format t ts) : decodeList format decode t = decodeItems decode ts := by
  unfold decodeList
  cases h with
  | list h =>
      split
      · next heq => rw [Tree.list.inj (heq.symm.trans h)]
      · next heq => exact nomatch heq.symm.trans h
      · next hlist _ => exact absurd h (hlist ts)
  | null hformat h =>
      split
      · next heq => exact nomatch heq.symm.trans h
      · rfl
      · next hnull => exact absurd hformat (hnull h)

/-- The values of a list are those of its items. -/
theorem decodeItems_of_decodeList {decode : Tree → Decoded α}
    {values : List α} (h : (decodeList format decode t).Gives lost values) :
    (decodeItems decode (items format t)).Gives lost values := by
  unfold decodeList at h
  split at h
  · next heq => rwa [items, heq]
  · next heq => rwa [items, heq]
  · exact absurd h not_gives_expected

/-- The entries of a named map are what they are. -/
theorem keyed_named (entries : List (String × Tree)) :
    keyed format fields (named entries) = entries := by
  induction entries with
  | nil => rfl
  | cons e rest ih =>
      rw [keyed, named, List.map_cons, List.filterMap_cons, decodeKey_text]
      exact congrArg (e :: ·) ih

theorem given_map_named (entries : List (String × Tree)) :
    given format fields (map (named entries)) = entries := by
  cases format <;> exact keyed_named entries

/-! ## Tags -/

theorem arePlainItems_iff {ts : List Tree} :
    arePlainItems ts = true ↔ ∀ t ∈ ts, t.isPlain = true := by
  induction ts with
  | nil => simp [arePlainItems]
  | cons t rest ih => simp [arePlainItems, ih]

theorem arePlainEntries_iff {entries : List (Tree × Tree)} :
    arePlainEntries entries = true ↔ ∀ e ∈ entries, e.1.isPlain = true ∧ e.2.isPlain = true := by
  induction entries with
  | nil => simp [arePlainEntries]
  | cons e rest ih => simp [arePlainEntries, ih]

/-- There is nothing to strip from a tree without tags. -/
theorem stripped_of_isPlain (h : t.isPlain = true) : t.stripped format = t := by
  cases format with
  | json => rfl
  | yaml =>
      cases t with
      | tagged tag t => exact nomatch h
      | _ => rfl

/-- The items of a tree without tags carry none. -/
theorem isPlain_of_mem_items (h : t.isPlain = true) {item : Tree} (hitem : item ∈ items format t) :
    item.isPlain = true := by
  rw [items, stripped_of_isPlain h] at hitem
  split at hitem
  · exact arePlainItems_iff.1 h item hitem
  · contradiction

/-- What a tree without tags gives to fields carries none. -/
theorem isPlain_of_mem_given (h : t.isPlain = true) {e : String × Tree}
    (he : e ∈ given format fields t) : e.2.isPlain = true := by
  unfold given at he
  split at he
  · exact arePlainItems_iff.1 h e.2 (List.of_mem_zip he).2
  · rw [stripped_of_isPlain h] at he
    split at he
    · obtain ⟨e', he', hname⟩ := List.mem_filterMap.1 he
      obtain ⟨name, -, rfl⟩ := Option.map_eq_some_iff.1 hname
      exact (arePlainEntries_iff.1 h e' he').2
    · contradiction

/-! ## Half way -/

/-- Entries that are taken into a record are read one by one; `admits` and `keep` say what
becomes of those that belong to no field. -/
theorem Reading.reads_of_takeAll {other : String → Tree → Reading σ → Decoded (Reading σ)}
    (admits : String × Tree → Prop)
    (keep : List (String × Tree) → String × Tree → List (String × Tree))
    (hother : ∀ name value (r r' : Reading σ) lost, (other name value r).Gives lost r' →
      lost = 0 ∧ admits (name, value) ∧ { r with others := keep r.others (name, value) } = r')
    {entries : List (Tree × Tree)} {r r' : Reading σ}
    (h : (r.takeAll format fields other entries).Gives lost r') :
    ∃ change, Reads fields (keyed format fields entries) lost change ∧
      change r.record = r'.record ∧
      (∀ e ∈ strangers fields (keyed format fields entries), admits e) ∧
      (strangers fields (keyed format fields entries)).foldl keep r.others = r'.others := by
  induction entries generalizing r lost with
  | nil =>
      obtain ⟨rfl, rfl⟩ := gives_pure_iff.1 h
      exact ⟨id, .nil, rfl, List.forall_mem_nil _, rfl⟩
  | cons e rest ih =>
      obtain ⟨key, value⟩ := e
      obtain ⟨name, _, _, hkey, hname, rfl⟩ := gives_bind_iff.1 h
      obtain ⟨rfl, hsome⟩ := decodeKey_gives hkey
      obtain ⟨r₁, first, second, htake, hrest, rfl⟩ := gives_bind_iff.1 hname
      obtain ⟨change, hreads, hrecord, hadmits, hothers⟩ := ih hrest
      have hkeyed : keyed format fields ((key, value) :: rest) =
          (name, value) :: keyed format fields rest := by
        simp [keyed, hsome]
      rw [hkeyed, Multiset.zero_add]
      rw [take, ← fieldOf?] at htake
      split at htake
      · next f hf =>
        obtain ⟨change₁, hread, rfl⟩ := exists_of_give htake
        rw [strangers_cons_of_some hf]
        exact ⟨change ∘ change₁, .field hf hread hreads, hrecord, hadmits, hothers⟩
      · next hnone =>
        obtain ⟨rfl, hentry, rfl⟩ := hother name value r r₁ first htake
        rw [strangers_cons_of_none hnone, Multiset.zero_add, List.forall_mem_cons]
        exact ⟨change, .stranger hnone hreads, hrecord, ⟨hentry, hadmits⟩, hothers⟩

/-- Values that are given to fields in order are read one by one. -/
theorem Reading.reads_of_giveAll {others : List (RecordField σ)} {values : List Tree}
    (hfields : ∀ f ∈ others, fieldOf? fields f.name = some f) {r r' : Reading σ}
    (h : (r.giveAll others values).Gives lost r') :
    ∃ change, Reads fields ((others.map RecordField.name).zip values) lost change ∧
      change r.record = r'.record := by
  induction values generalizing others r lost with
  | nil =>
      rw [giveAll] at h
      obtain ⟨rfl, rfl⟩ := gives_pure_iff.1 h
      rw [List.zip_nil_right]
      exact ⟨id, .nil, rfl⟩
  | cons value rest ih =>
      cases others with
      | nil => exact absurd h not_gives_expected
      | cons f others =>
          obtain ⟨hf, hothers⟩ := List.forall_mem_cons.1 hfields
          obtain ⟨r₁, first, second, hgive, hrest, rfl⟩ := gives_bind_iff.1 h
          obtain ⟨change₁, hread, rfl⟩ := exists_of_give hgive
          obtain ⟨change, hreads, hrecord⟩ := ih hothers hrest
          exact ⟨change ∘ change₁, .field hf hread hreads, hrecord⟩

/-! ## Records -/

/-- Entries are read from a map, or from a null as none. -/
theorem decodeEntries_gives {entries : List (Tree × Tree)}
    (h : (t.decodeEntries format).Gives lost entries) : lost = 0 ∧
      (t.stripped format = map entries ∨ t.stripped format = null ∧ entries = []) := by
  unfold decodeEntries at h
  split at h
  · next heq =>
    obtain ⟨hlost, rfl⟩ := gives_pure_iff.1 h
    exact ⟨hlost, .inl heq⟩
  · next heq =>
    obtain ⟨hlost, rfl⟩ := gives_pure_iff.1 h
    exact ⟨hlost, .inr ⟨heq, rfl⟩⟩
  · exact absurd h not_gives_expected

theorem given_of_map {entries : List (Tree × Tree)} (h : t.stripped format = map entries) :
    given format fields t = keyed format fields entries := by
  cases format with
  | json =>
      obtain rfl : t = map entries := h
      rfl
  | yaml =>
      rw [given, h]
      exact fun _ _ hformat => nomatch hformat

/-- The entries that a tree is taken for are what it gives. -/
theorem given_of_decodeEntries {entries : List (Tree × Tree)}
    (h : (t.decodeEntries format).Gives lost entries) :
    given format fields t = keyed format fields entries := by
  obtain ⟨-, heq | ⟨heq, rfl⟩⟩ := decodeEntries_gives h
  · exact given_of_map heq
  · cases format with
    | json =>
        obtain rfl : t = null := heq
        rfl
    | yaml =>
        rw [given, heq]
        · rfl
        · exact fun _ _ hformat => nomatch hformat

variable {start record : σ}

/-- **A record that is read** is what the given entries make of it. -/
theorem reads_of_decodeRecord (hnodup : (fields.map RecordField.name).Nodup)
    (h : (decodeRecord format fields start t).Gives lost record) :
    ∃ change, Reads fields (given format fields t) lost change ∧ change start = record := by
  unfold decodeRecord at h
  split at h
  · obtain ⟨r, hr, rfl⟩ := gives_map_iff.1 h
    exact Reading.reads_of_giveAll (fun f hf => fieldOf?_of_mem hnodup hf) hr
  · obtain ⟨entries, _, _, hentries, htake, rfl⟩ := gives_bind_iff.1 h
    obtain ⟨r, hr, rfl⟩ := gives_map_iff.1 htake
    have hignore (name : String) (value : Tree) (r r' : Reading σ) (lost : Multiset Nat)
        (h : (pure r : Decoded (Reading σ)).Gives lost r') :
        lost = 0 ∧ True ∧ { r with others := r.others } = r' := by
      obtain ⟨hlost, hr⟩ := gives_pure_iff.1 h
      exact ⟨hlost, trivial, hr⟩
    obtain ⟨change, hreads, hrecord, -⟩ := Reading.reads_of_takeAll (fun _ => True)
      (fun others _ => others) hignore hr
    obtain ⟨rfl, -⟩ := decodeEntries_gives hentries
    rw [given_of_decodeEntries hentries, Multiset.zero_add]
    exact ⟨change, hreads, hrecord⟩

/-- **A record that shares its map** is what the given entries make of it, and leaves those that
belong to none of its fields, none of which carries a tag. -/
theorem reads_of_decodeOpenRecord {others : List (String × Tree)}
    (h : (decodeOpenRecord format fields start t).Gives lost (record, others)) :
    ∃ change, Reads fields (given format fields t) lost change ∧ change start = record ∧
      strangers fields (given format fields t) = others ∧ ∀ e ∈ others, e.2.isPlain = true := by
  obtain ⟨entries, _, _, hentries, htake, rfl⟩ := gives_bind_iff.1 h
  obtain ⟨r, hr, hparts⟩ := gives_map_iff.1 htake
  obtain ⟨rfl, rfl⟩ := Prod.mk.inj hparts
  have hkeep (name : String) (value : Tree) (r r' : Reading σ) (lost : Multiset Nat)
      (h : (if value.isPlain then pure { r with others := (name, value) :: r.others }
        else .expected "a value without a tag" : Decoded (Reading σ)).Gives lost r') :
      lost = 0 ∧ value.isPlain = true ∧ { r with others := (name, value) :: r.others } = r' := by
    split at h
    · next hplain =>
      obtain ⟨hlost, hr⟩ := gives_pure_iff.1 h
      exact ⟨hlost, hplain, hr⟩
    · exact absurd h not_gives_expected
  obtain ⟨change, hreads, hrecord, hplain, hothers⟩ :=
    Reading.reads_of_takeAll (fun e => e.2.isPlain = true) (fun others e => e :: others) hkeep hr
  obtain ⟨rfl, -⟩ := decodeEntries_gives hentries
  rw [given_of_decodeEntries hentries, Multiset.zero_add]
  rw [List.foldl_flip_cons_eq_append', Reading.start, List.append_nil] at hothers
  refine ⟨change, hreads, hrecord, ?_, fun e he => hplain e ?_⟩
  · rw [← hothers, List.reverse_reverse]
  · rwa [← hothers, List.reverse_reverse] at he

end NodeFit.Tree
