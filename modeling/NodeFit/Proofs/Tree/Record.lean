import Mathlib.Algebra.Order.Group.Multiset
import Mathlib.Data.List.Pairwise
import NodeFit.Proofs.Dictionary
import NodeFit.Proofs.Tree.Decoded

/-!
# NodeFit.Proofs.Tree.Record

Reading records, whatever the order of their entries.

What entries with distinct names do to a record is the composition of what each of them
does that belongs to a field (`Reads`); the others are left over (`strangers`).  Records
are read in that way from maps (`decodeRecord_map_iff`, `decodeOpenRecord_map_iff`) and,
where the rules allow it, from lists (`decodeRecord_list_iff`).  As long as the changes
that different fields make do not get into each other's way, the order of the entries does
not matter (`Reads.perm`).

The decoder works its way along the entries with a state: what it has seen, the record so far,
and what is left over.  The induction is on the entries, for every state that has not seen
their names (`Reading.takeAll_gives_iff`); `Reads` is what remains when the state is
taken away.
-/

namespace NodeFit.Tree

open Decoded (gives_bind_iff gives_map_iff gives_pure_iff)
open Dictionary (DistinctKeys distinctKeys_cons)

variable {σ α : Type}

/-- Entries of a map with texts as keys. -/
def named (entries : List (String × Tree)) : List (Tree × Tree) :=
  entries.map fun e => (text e.1, e.2)

@[simp]
theorem RecordField.name_of (name : String) (decode : Tree → Decoded α) (set : α → σ → σ) :
    (RecordField.of name decode set).name = name := rfl

/-- The field of a name. -/
def fieldOf? (fields : List (RecordField σ)) (name : String) : Option (RecordField σ) :=
  fields.find? fun field => field.name == name

theorem name_of_fieldOf? {fields : List (RecordField σ)} {name : String} {f : RecordField σ}
    (h : fieldOf? fields name = some f) : f ∈ fields ∧ f.name = name :=
  ⟨List.mem_of_find?_eq_some h, by simpa using List.find?_some h⟩

/-- The entries that belong to no field. -/
def strangers (fields : List (RecordField σ)) (entries : List (String × Tree)) :
    List (String × Tree) :=
  entries.filter fun e => (fieldOf? fields e.1).isNone

theorem strangers_cons_of_none {fields : List (RecordField σ)} {name : String} {value : Tree}
    {entries : List (String × Tree)} (h : fieldOf? fields name = none) :
    strangers fields ((name, value) :: entries) = (name, value) :: strangers fields entries := by
  simp [strangers, h]

theorem strangers_cons_of_some {fields : List (RecordField σ)} {name : String} {value : Tree}
    {entries : List (String × Tree)} {f : RecordField σ} (h : fieldOf? fields name = some f) :
    strangers fields ((name, value) :: entries) = strangers fields entries := by
  simp [strangers, h]

/-- What entries do to a record, and how many entries of lists of outcomes they drop. -/
inductive Reads (fields : List (RecordField σ)) :
    List (String × Tree) → Multiset Nat → (σ → σ) → Prop where
  | nil : Reads fields [] 0 id
  | field {name value rest f first second change changes} :
      fieldOf? fields name = some f → (f.read value).Gives first change →
      Reads fields rest second changes →
      Reads fields ((name, value) :: rest) (first + second) (changes ∘ change)
  | stranger {name value rest lost changes} :
      fieldOf? fields name = none → Reads fields rest lost changes →
      Reads fields ((name, value) :: rest) lost changes

variable {fields : List (RecordField σ)} {entries entries' : List (String × Tree)}
  {lost : Multiset Nat} {change : σ → σ}

/-! ## Entries of maps -/

theorem decodeKey_text (format : Format) (fields : List (RecordField σ)) (name : String) :
    decodeKey format fields (text name) = pure name := by
  cases format <;> rfl

/-- A field that was not given before changes the record by what is read. -/
theorem Reading.give_gives_iff {r r' : Reading σ} {f : RecordField σ} {value : Tree}
    (h : f.name ∉ r.seen) :
    (r.give f value).Gives lost r' ↔ ∃ change, (f.read value).Gives lost change ∧
      { r with seen := f.name :: r.seen, record := change r.record } = r' := by
  have hgive : r.give f value = f.read value >>= fun change =>
      pure { r with seen := f.name :: r.seen, record := change r.record } := by
    rw [give, if_neg (by simpa using h)]
  rw [hgive, gives_bind_iff]
  constructor
  · intro h
    obtain ⟨change, first, second, hread, hr, rfl⟩ := h
    obtain ⟨rfl, rfl⟩ := gives_pure_iff.1 hr
    exact ⟨change, by rwa [Multiset.add_zero], rfl⟩
  · intro h
    obtain ⟨change, hread, hr⟩ := h
    exact ⟨change, lost, 0, hread, gives_pure_iff.2 ⟨rfl, hr⟩, Multiset.add_zero lost⟩

/-- The first entry is taken in, and then the others. -/
theorem Reading.takeAll_cons_gives_iff {format : Format}
    {other : String → Tree → Reading σ → Decoded (Reading σ)} {r r' : Reading σ} {name : String}
    {value : Tree} :
    (r.takeAll format fields other (named ((name, value) :: entries))).Gives lost r' ↔
      ∃ r₁ first second, (r.take fields other name value).Gives first r₁ ∧
        (r₁.takeAll format fields other (named entries)).Gives second r' ∧
        first + second = lost := by
  rw [named, List.map_cons, takeAll, decodeKey_text, Decoded.pure_bind]
  exact gives_bind_iff

section TakeAll

variable {format : Format} {other : String → Tree → Reading σ → Decoded (Reading σ)}
  {r r' : Reading σ} {name : String} {value : Tree}

/-- An entry of a field not yet given changes the record. -/
theorem Reading.takeAll_cons_field_iff {f : RecordField σ} (hfield : fieldOf? fields name = some f)
    (hnew : f.name ∉ r.seen) :
    (r.takeAll format fields other (named ((name, value) :: entries))).Gives lost r' ↔
      ∃ change first second, (f.read value).Gives first change ∧
        (({ r with seen := f.name :: r.seen, record := change r.record } : Reading σ).takeAll
          format fields other (named entries)).Gives second r' ∧
        first + second = lost := by
  have htake : r.take fields other name value = r.give f value := by
    rw [take, ← fieldOf?, hfield]
  simp only [takeAll_cons_gives_iff, htake, Reading.give_gives_iff hnew]
  constructor
  · intro h
    obtain ⟨_, first, second, ⟨change, hread, rfl⟩, hgives, hlost⟩ := h
    exact ⟨change, first, second, hread, hgives, hlost⟩
  · intro h
    obtain ⟨change, first, second, hread, hgives, hlost⟩ := h
    exact ⟨_, first, second, ⟨change, hread, rfl⟩, hgives, hlost⟩

/-- Any other entry is kept, if it is admitted. -/
theorem Reading.takeAll_cons_stranger_iff {admits : String × Tree → Prop}
    {keep : List (String × Tree) → String × Tree → List (String × Tree)}
    (hother : ∀ name value (r r' : Reading σ) lost, (other name value r).Gives lost r' ↔
      lost = 0 ∧ admits (name, value) ∧ { r with others := keep r.others (name, value) } = r')
    (hfield : fieldOf? fields name = none) :
    (r.takeAll format fields other (named ((name, value) :: entries))).Gives lost r' ↔
      admits (name, value) ∧
        (({ r with others := keep r.others (name, value) } : Reading σ).takeAll
          format fields other (named entries)).Gives lost r' := by
  have htake : r.take fields other name value = other name value r := by
    rw [take, ← fieldOf?, hfield]
  simp only [takeAll_cons_gives_iff, htake, hother]
  constructor
  · intro h
    obtain ⟨_, _, second, ⟨rfl, hadmits, rfl⟩, hgives, rfl⟩ := h
    exact ⟨hadmits, by rwa [Multiset.zero_add]⟩
  · intro h
    obtain ⟨hadmits, hgives⟩ := h
    exact ⟨_, 0, lost, ⟨rfl, hadmits, rfl⟩, hgives, Multiset.zero_add lost⟩

end TakeAll

/-- An entry of a field changes the record before the other entries do. -/
theorem reads_cons_field_iff {name : String} {value : Tree} {f : RecordField σ}
    (hfield : fieldOf? fields name = some f) :
    Reads fields ((name, value) :: entries) lost change ↔
      ∃ change₁ changes first second, (f.read value).Gives first change₁ ∧
        Reads fields entries second changes ∧ first + second = lost ∧
        changes ∘ change₁ = change := by
  constructor
  · intro h
    cases h with
    | stranger hnone => simp [hfield] at hnone
    | field hsome hread hreads =>
        obtain rfl := Option.some.inj (hfield.symm.trans hsome)
        exact ⟨_, _, _, _, hread, hreads, rfl, rfl⟩
  · intro h
    obtain ⟨change₁, changes, first, second, hread, hreads, rfl, rfl⟩ := h
    exact .field hfield hread hreads

/-- An entry of no field changes nothing. -/
theorem reads_cons_stranger_iff {name : String} {value : Tree}
    (hfield : fieldOf? fields name = none) :
    Reads fields ((name, value) :: entries) lost change ↔ Reads fields entries lost change := by
  constructor
  · intro h
    cases h with
    | field hsome => simp [hfield] at hsome
    | stranger _ hreads => exact hreads
  · exact .stranger hfield

/-- **Entries with new and distinct names are read one by one**; `admits` and `keep` say
what becomes of those that belong to no field. -/
theorem Reading.takeAll_gives_iff {format : Format}
    {other : String → Tree → Reading σ → Decoded (Reading σ)} (admits : String × Tree → Prop)
    (keep : List (String × Tree) → String × Tree → List (String × Tree))
    (hother : ∀ name value (r r' : Reading σ) lost, (other name value r).Gives lost r' ↔
      lost = 0 ∧ admits (name, value) ∧ { r with others := keep r.others (name, value) } = r')
    {r : Reading σ} (hdistinct : DistinctKeys entries) (hnew : ∀ e ∈ entries, e.1 ∉ r.seen)
    {record : σ} {others : List (String × Tree)} :
    (∃ r', (r.takeAll format fields other (named entries)).Gives lost r' ∧
      r'.record = record ∧ r'.others = others) ↔
    ∃ change, Reads fields entries lost change ∧ change r.record = record ∧
      (∀ e ∈ strangers fields entries, admits e) ∧
      (strangers fields entries).foldl keep r.others = others := by
  -- What is carried along is that the reading has not seen the names that are still to come.
  induction entries generalizing r lost with
  | nil =>
      simp only [named, List.map_nil, takeAll, gives_pure_iff]
      constructor
      · intro h
        obtain ⟨_, ⟨rfl, rfl⟩, hrecord, hothers⟩ := h
        exact ⟨id, .nil, hrecord, by simp [strangers], hothers⟩
      · intro h
        obtain ⟨change, hreads, hrecord, -, hothers⟩ := h
        cases hreads
        exact ⟨r, ⟨rfl, rfl⟩, hrecord, hothers⟩
  | cons e rest ih =>
      obtain ⟨name, value⟩ := e
      obtain ⟨hname, hrest⟩ := distinctKeys_cons.1 hdistinct
      obtain ⟨hfresh, hnewRest⟩ := List.forall_mem_cons.1 hnew
      cases hfield : fieldOf? fields name with
      | none =>
          have hnew' : ∀ e ∈ rest,
              e.1 ∉ ({ r with others := keep r.others (name, value) } : Reading σ).seen :=
            hnewRest
          simp only [takeAll_cons_stranger_iff hother hfield, reads_cons_stranger_iff hfield,
            strangers_cons_of_none hfield, List.forall_mem_cons, List.foldl_cons]
          constructor
          · intro h
            obtain ⟨r', ⟨hadmits, hgives⟩, hafter⟩ := h
            obtain ⟨change, hreads, hchange, hall, hfold⟩ :=
              (ih hrest hnew').1 ⟨r', hgives, hafter⟩
            exact ⟨change, hreads, hchange, ⟨hadmits, hall⟩, hfold⟩
          · intro h
            obtain ⟨change, hreads, hchange, ⟨hadmits, hall⟩, hfold⟩ := h
            obtain ⟨r', hgives, hafter⟩ :=
              (ih hrest hnew').2 ⟨change, hreads, hchange, hall, hfold⟩
            exact ⟨r', ⟨hadmits, hgives⟩, hafter⟩
      | some f =>
          obtain ⟨-, hfname⟩ := name_of_fieldOf? hfield
          have hnew' (change : σ → σ) : ∀ e ∈ rest,
              e.1 ∉ ({ r with seen := f.name :: r.seen, record := change r.record } :
                Reading σ).seen := by
            intro e he
            simp only [List.mem_cons, hfname, not_or]
            exact ⟨(hname e he).symm, hnewRest e he⟩
          simp only [takeAll_cons_field_iff hfield (hfname ▸ hfresh), reads_cons_field_iff hfield,
            strangers_cons_of_some hfield]
          constructor
          · intro h
            obtain ⟨r', ⟨change, first, second, hread, hgives, hlost⟩, hafter⟩ := h
            obtain ⟨changes, hreads, hkept⟩ := (ih hrest (hnew' change)).1 ⟨r', hgives, hafter⟩
            exact ⟨changes ∘ change,
              ⟨change, changes, first, second, hread, hreads, hlost, rfl⟩, hkept⟩
          · intro h
            obtain ⟨_, ⟨change, changes, first, second, hread, hreads, hlost, rfl⟩, hkept⟩ := h
            obtain ⟨r', hgives, hafter⟩ := (ih hrest (hnew' change)).2 ⟨changes, hreads, hkept⟩
            exact ⟨r', ⟨change, first, second, hread, hgives, hlost⟩, hafter⟩

/-! ## Maps -/

/-- **A record is read from a map** by what its entries do. -/
theorem decodeRecord_map_iff {format : Format} {start record : σ}
    (hdistinct : DistinctKeys entries) :
    (decodeRecord format fields start (map (named entries))).Gives lost record ↔
      ∃ change, Reads fields entries lost change ∧ change start = record := by
  let ignore (_ : String) (_ : Tree) (r : Reading σ) : Decoded (Reading σ) := pure r
  have hread : decodeRecord format fields start (map (named entries)) =
      Reading.record <$> (Reading.start start).takeAll format fields ignore (named entries) := by
    cases format <;> rfl
  have hignore (name : String) (value : Tree) (r r' : Reading σ) (lost : Multiset Nat) :
      (ignore name value r).Gives lost r' ↔
        lost = 0 ∧ True ∧ { r with others := r.others } = r' := by
    rw [true_and]
    exact gives_pure_iff
  have hnew : ∀ e ∈ entries, e.1 ∉ (Reading.start start).seen := fun _ _ => List.not_mem_nil
  rw [hread, gives_map_iff]
  constructor
  · intro h
    obtain ⟨r', hgives, hrecord⟩ := h
    obtain ⟨change, hreads, hchange, -⟩ := (Reading.takeAll_gives_iff (fun _ => True)
      (fun others _ => others) hignore hdistinct hnew).1 ⟨r', hgives, hrecord, rfl⟩
    exact ⟨change, hreads, hchange⟩
  · intro h
    obtain ⟨change, hreads, hchange⟩ := h
    obtain ⟨r', hgives, hrecord, -⟩ := (Reading.takeAll_gives_iff (fun _ => True)
      (fun others _ => others) hignore hdistinct hnew).2
      ⟨change, hreads, hchange, fun _ _ => trivial, rfl⟩
    exact ⟨r', hgives, hrecord⟩

/-- **A record that shares its map** is read in the same way; what is left over must carry no
tags. -/
theorem decodeOpenRecord_map_iff {format : Format} {start record : σ}
    {others : List (String × Tree)} (hdistinct : DistinctKeys entries) :
    (decodeOpenRecord format fields start (map (named entries))).Gives lost (record, others) ↔
      ∃ change, Reads fields entries lost change ∧ change start = record ∧
        strangers fields entries = others ∧ ∀ e ∈ others, e.2.isPlain = true := by
  let keep (name : String) (value : Tree) (r : Reading σ) : Decoded (Reading σ) :=
    if value.isPlain then pure { r with others := (name, value) :: r.others }
    else .expected "a value without a tag"
  have hread : decodeOpenRecord format fields start (map (named entries)) =
      (fun r => (r.record, r.others.reverse)) <$>
        (Reading.start start).takeAll format fields keep (named entries) := by
    cases format <;> rfl
  have hkeep (name : String) (value : Tree) (r r' : Reading σ) (lost : Multiset Nat) :
      (keep name value r).Gives lost r' ↔
        lost = 0 ∧ value.isPlain = true ∧ { r with others := (name, value) :: r.others } = r' := by
    cases hplain : value.isPlain <;> simp [keep, hplain]
  have hnew : ∀ e ∈ entries, e.1 ∉ (Reading.start start).seen := fun _ _ => List.not_mem_nil
  rw [hread, gives_map_iff]
  constructor
  · intro h
    obtain ⟨r', hgives, hr'⟩ := h
    obtain ⟨hrecord, rfl⟩ := Prod.mk.inj hr'
    obtain ⟨change, hreads, hchange, hplain, hothers⟩ := (Reading.takeAll_gives_iff
      (fun e => e.2.isPlain = true) (fun others e => e :: others) hkeep hdistinct hnew).1
      ⟨r', hgives, hrecord, rfl⟩
    -- What is left over is collected in front of what was there, and turned around at the end.
    rw [List.foldl_flip_cons_eq_append', Reading.start, List.append_nil] at hothers
    rw [← hothers, List.reverse_reverse]
    exact ⟨change, hreads, hchange, rfl, hplain⟩
  · intro h
    obtain ⟨change, hreads, hchange, rfl, hplain⟩ := h
    obtain ⟨r', hgives, hrecord, hothers⟩ := (Reading.takeAll_gives_iff
      (fun e => e.2.isPlain = true) (fun others e => e :: others) hkeep hdistinct hnew).2
      ⟨change, hreads, hchange, hplain, rfl⟩
    refine ⟨r', hgives, ?_⟩
    rw [hrecord, hothers, List.foldl_flip_cons_eq_append', Reading.start, List.append_nil,
      List.reverse_reverse]

/-! ## Lists -/

/-- Fields with distinct names are found under their names. -/
theorem fieldOf?_of_mem (hnodup : (fields.map RecordField.name).Nodup) {f : RecordField σ}
    (hf : f ∈ fields) : fieldOf? fields f.name = some f := by
  induction fields with
  | nil => contradiction
  | cons g rest ih =>
      obtain ⟨hg, hrest⟩ := List.nodup_cons.1 hnodup
      rw [fieldOf?, List.find?_cons]
      obtain rfl | hf := List.mem_cons.1 hf
      · simp
      · have hne : (g.name == f.name) = false :=
          beq_false_of_ne fun h => hg (h ▸ List.mem_map_of_mem hf)
        rw [hne]
        exact ih hrest hf

/-- Values that are given to fields in their order are read one by one, and there are no more of
them than fields. -/
theorem Reading.giveAll_gives_iff {given : List (RecordField σ)} {values : List Tree}
    (hgiven : ∀ f ∈ given, fieldOf? fields f.name = some f)
    (hnodup : (given.map RecordField.name).Nodup) {r : Reading σ}
    (hnew : ∀ f ∈ given, f.name ∉ r.seen) {record : σ} :
    (∃ r', (r.giveAll given values).Gives lost r' ∧ r'.record = record) ↔
      values.length ≤ given.length ∧ ∃ change,
        Reads fields ((given.map RecordField.name).zip values) lost change ∧
          change r.record = record := by
  induction values generalizing given r lost with
  | nil =>
      rw [giveAll, List.zip_nil_right]
      simp only [gives_pure_iff, List.length_nil, Nat.zero_le, true_and]
      constructor
      · intro h
        obtain ⟨_, ⟨rfl, rfl⟩, hrecord⟩ := h
        exact ⟨id, .nil, hrecord⟩
      · intro h
        obtain ⟨change, hreads, hrecord⟩ := h
        cases hreads
        exact ⟨r, ⟨rfl, rfl⟩, hrecord⟩
  | cons value rest ih =>
      cases given with
      | nil => simp [giveAll]
      | cons f given =>
          obtain ⟨hfield, hgivenRest⟩ := List.forall_mem_cons.1 hgiven
          obtain ⟨hf, hnodupRest⟩ := List.nodup_cons.1 hnodup
          obtain ⟨hfresh, hnewRest⟩ := List.forall_mem_cons.1 hnew
          have hnew' (change : σ → σ) : ∀ g ∈ given,
              g.name ∉ ({ r with seen := f.name :: r.seen, record := change r.record } :
                Reading σ).seen := by
            intro g hg
            simp only [List.mem_cons, not_or]
            exact ⟨fun h => hf (h ▸ List.mem_map_of_mem hg), hnewRest g hg⟩
          rw [giveAll, List.map_cons, List.zip_cons_cons]
          simp only [gives_bind_iff, Reading.give_gives_iff hfresh, reads_cons_field_iff hfield,
            List.length_cons, Nat.add_le_add_iff_right]
          constructor
          · intro h
            obtain ⟨r', ⟨_, first, second, ⟨change, hread, rfl⟩, hgives, hlost⟩, hrecord⟩ := h
            obtain ⟨hlength, changes, hreads, hchange⟩ :=
              (ih hgivenRest hnodupRest (hnew' change)).1 ⟨r', hgives, hrecord⟩
            exact ⟨hlength, changes ∘ change,
              ⟨change, changes, first, second, hread, hreads, hlost, rfl⟩, hchange⟩
          · intro h
            obtain ⟨hlength, _, ⟨change, changes, first, second, hread, hreads, hlost, rfl⟩,
              hchange⟩ := h
            obtain ⟨r', hgives, hrecord⟩ := (ih hgivenRest hnodupRest (hnew' change)).2
              ⟨hlength, changes, hreads, hchange⟩
            exact ⟨r', ⟨_, first, second, ⟨change, hread, rfl⟩, hgives, hlost⟩, hrecord⟩

/-- **A record is read from a list** as from a map in which the values stand under the names
of the first fields. -/
theorem decodeRecord_list_iff (hnodup : (fields.map RecordField.name).Nodup) {start record : σ}
    {values : List Tree} :
    (decodeRecord .json fields start (list values)).Gives lost record ↔
      values.length ≤ fields.length ∧ ∃ change,
        Reads fields ((fields.map RecordField.name).zip values) lost change ∧
          change start = record := by
  have hread : decodeRecord .json fields start (list values) =
      Reading.record <$> (Reading.start start).giveAll fields values := rfl
  rw [hread, gives_map_iff]
  exact Reading.giveAll_gives_iff (fun f hf => fieldOf?_of_mem hnodup hf) hnodup
    fun _ _ => List.not_mem_nil

/-! ## Order -/

/-- The changes of two fields do not get into each other's way. -/
def RecordField.Commutes (f g : RecordField σ) : Prop :=
  ∀ t u first second change change', (f.read t).Gives first change →
    (g.read u).Gives second change' → change ∘ change' = change' ∘ change

/-- A field is read by its decoder, and changes the record by its setter. -/
theorem RecordField.read_of_iff {name : String} {decode : Tree → Decoded α} {set : α → σ → σ}
    {t : Tree} :
    ((RecordField.of name decode set).read t).Gives lost change ↔
      ∃ a, (decode t).Gives lost a ∧ set a = change :=
  gives_map_iff

/-- Fields do not get into each other's way if their setters do not. -/
@[simp]
theorem RecordField.commutes_of {β : Type} {name name' : String} {decode : Tree → Decoded α}
    {decode' : Tree → Decoded β} {set : α → σ → σ} {set' : β → σ → σ}
    (h : ∀ a b r, set a (set' b r) = set' b (set a r)) :
    (RecordField.of name decode set).Commutes (RecordField.of name' decode' set') := by
  intro t u first second change change' hf hg
  obtain ⟨a, -, rfl⟩ := read_of_iff.1 hf
  obtain ⟨b, -, rfl⟩ := read_of_iff.1 hg
  exact funext (h a b)

instance : Std.Symm (@RecordField.Commutes σ) where
  symm _ _ h t u first second change change' hg hf :=
    (h u t second first change' change hf hg).symm

/-- Fields with distinct names that do not get into each other's way. -/
structure Orderly (fields : List (RecordField σ)) : Prop where
  names : (fields.map RecordField.name).Nodup
  commutes : fields.Pairwise RecordField.Commutes

theorem orderly_singleton (f : RecordField σ) : Orderly [f] :=
  ⟨List.nodup_singleton _, List.pairwise_singleton _ _⟩

/-- Different fields do not get into each other's way. -/
theorem comp_comm_of_fieldOf? (hcomm : fields.Pairwise RecordField.Commutes) {name name' : String}
    {f g : RecordField σ} (hf : fieldOf? fields name = some f) (hg : fieldOf? fields name' = some g)
    (hne : name ≠ name') {t u : Tree} {first second : Multiset Nat} {change' : σ → σ}
    (hft : (f.read t).Gives first change) (hgu : (g.read u).Gives second change') :
    change ∘ change' = change' ∘ change := by
  obtain ⟨hfmem, hfname⟩ := name_of_fieldOf? hf
  obtain ⟨hgmem, hgname⟩ := name_of_fieldOf? hg
  have hfg : f ≠ g := fun h => hne (hfname ▸ hgname ▸ congrArg _ h)
  exact hcomm.forall hfmem hgmem hfg _ _ _ _ _ _ hft hgu

/-- **The order of the entries does not matter.** -/
theorem Reads.perm (hcomm : fields.Pairwise RecordField.Commutes) (hdistinct : DistinctKeys entries)
    (hperm : entries.Perm entries') (h : Reads fields entries lost change) :
    Reads fields entries' lost change := by
  induction hperm generalizing lost change with
  | nil => exact h
  | cons e _ ih =>
      obtain ⟨-, hrest⟩ := distinctKeys_cons.1 hdistinct
      cases h with
      | field hf hread h => exact .field hf hread (ih hrest h)
      | stranger hnone h => exact .stranger hnone (ih hrest h)
  | swap e e' rest =>
      have hne : e'.1 ≠ e.1 := (distinctKeys_cons.1 hdistinct).1 e List.mem_cons_self
      cases h with
      | stranger hnone h =>
          cases h with
          | stranger hnone' h => exact .stranger hnone' (.stranger hnone h)
          | field hf hread h => exact .field hf hread (.stranger hnone h)
      | field hf hread h =>
          cases h with
          | stranger hnone h => exact .stranger hnone (.field hf hread h)
          | field hf' hread' h =>
              -- Two entries of fields: what they drop adds up in either order, and their changes
              -- commute.
              have hcomp := comp_comm_of_fieldOf? hcomm hf hf' hne hread hread'
              have hswap := Reads.field hf' hread' (.field hf hread h)
              rw [Function.comp_assoc, hcomp, ← Function.comp_assoc] at hswap
              rwa [add_left_comm] at hswap
  | trans hperm _ ih ih' => exact ih' (hdistinct.perm hperm) (ih hdistinct h)

end NodeFit.Tree
