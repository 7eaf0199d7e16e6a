import NodeFit.Proofs.Document.Schema
import NodeFit.Proofs.Tree.Entries

/-!
# NodeFit.Proofs.Document.Outcomes

The lists of outcomes in a document, and what becomes of their entries.

A list of outcomes stands among the fields of a check, where the rules of the document
hold, or in an alternative to them, where those of JSON hold and no tags are allowed
(`OutcomePlace`).  The lists of a document are found by the names that lead to them
(`PreflightDocument.outcomeLists`).  What a decoder drops is accounted for by the lists
that it comes across (`Shows`).

An entry is kept when it is read on its own as an outcome (`OutcomePlace.outcome?`), and lost
otherwise; it is never an error of the list.  So a list that is read has the outcomes among its
entries, in their order, and drops the number of the others (`decodeOutcomes_eq_kept`).

For the numbers of a whole document there is one rule for each way of putting decoders together,
as for any statement about decoders: values that may be missing, items of a list, fields of a
record.  Decoders that come across no list of outcomes are `Silent`.
-/

namespace NodeFit

open Decoded (gives_bind_iff gives_map_iff gives_pure_iff gives_require_iff not_gives_expected
  result_bind_iff result_map_iff result_eq_ok_iff)
open NodeFit.Tree

/-! ## Lists of outcomes -/

/-- Where a list of outcomes stands: among the fields of a check of a document, or in an
alternative to them. -/
inductive OutcomePlace where
  | own (format : Format)
  | alternative
deriving DecidableEq, Repr

namespace OutcomePlace

/-- The rules that hold there. -/
def rules : OutcomePlace → Format
  | own format => format
  | alternative => .json

/-- An entry is well-typed: it is read, whatever it names, and carries no tag where none may
stand. -/
def Admits (place : OutcomePlace) (t : Tree) : Prop :=
  (∃ entry, (OutcomeEntry.decode place.rules t).result = .ok entry) ∧
    (place = alternative → t.isPlain = true)

/-- What an entry is read as if it must be an outcome. -/
def outcome? (place : OutcomePlace) (t : Tree) : Option Outcome :=
  (Outcome.decode place.rules t).result.toOption

end OutcomePlace

/-- A list of outcomes as it is written. -/
structure OutcomeList where
  place : OutcomePlace
  entries : List Tree

namespace OutcomeList

/-- The outcomes among the entries. -/
def kept (l : OutcomeList) : List Outcome := l.entries.filterMap l.place.outcome?

/-- The number of entries that are no outcomes. -/
def lost (l : OutcomeList) : Nat := l.entries.countP fun t => (l.place.outcome? t).isNone

/-- The number of entries that are no outcomes, if there are any. -/
def lost? (l : OutcomeList) : Option Nat := if l.lost = 0 then none else some l.lost

end OutcomeList

/-- The list that a tree holds there. -/
def OutcomePlace.listOf (place : OutcomePlace) (t : Tree) : OutcomeList :=
  ⟨place, items place.rules t⟩

/-! ## What is accounted for -/

variable {α β σ : Type} {format : Format} {t : Tree} {lost : Multiset Nat}

/-- The numbers of dropped entries are those that the lists have lost, and all of their entries
are well-typed. -/
structure Accounts (lost : Multiset Nat) (lists : List OutcomeList) : Prop where
  lost : lost = lists.filterMap OutcomeList.lost?
  admits : ∀ l ∈ lists, ∀ t ∈ l.entries, l.place.Admits t

/-- Without lists nothing may be dropped. -/
theorem accounts_nil_iff : Accounts lost [] ↔ lost = 0 :=
  ⟨Accounts.lost, fun h => ⟨h, List.forall_mem_nil _⟩⟩

/-- Numbers that are accounted for by two collections of lists are accounted for by both together.
-/
theorem Accounts.append {first second : Multiset Nat} {lists lists' : List OutcomeList}
    (h : Accounts first lists) (h' : Accounts second lists') :
    Accounts (first + second) (lists ++ lists') where
  lost := by rw [h.lost, h'.lost, List.filterMap_append, Multiset.coe_add]
  admits := List.forall_mem_append.2 ⟨h.admits, h'.admits⟩

/-- The decoder drops what the lists that it comes across have lost. -/
def Shows (decode : Tree → Decoded α) (lists : Tree → List OutcomeList) : Prop :=
  ∀ ⦃t lost a⦄, (decode t).Gives lost a → Accounts lost (lists t)

/-- The decoder comes across no lists of outcomes. -/
abbrev Silent (decode : Tree → Decoded α) : Prop := Shows decode fun _ => []

section Shows

variable {decode : Tree → Decoded α} {lists : Tree → List OutcomeList}

/-- A decoder without lists of outcomes drops nothing. -/
theorem silent_iff : Silent decode ↔ ∀ ⦃t lost a⦄, (decode t).Gives lost a → lost = 0 := by
  simp only [Silent, Shows, accounts_nil_iff]

theorem silent_decodeText : Silent (decodeText format) :=
  silent_iff.2 fun _ _ _ h => (decodeText_gives_iff.1 h).1

/-- A value that may be missing drops what the value drops. -/
theorem accounts_decodeOption {o : Option α} (hnull : lists null = [])
    (h : ∀ lost a, (decode t).Gives lost a → Accounts lost (lists t))
    (hgives : (decodeOption decode t).Gives lost o) : Accounts lost (lists t) := by
  by_cases ht : t = null
  · subst ht
    rw [hnull, accounts_nil_iff]
    exact (gives_pure_iff.1 hgives).1
  · rw [decodeOption_of_ne_null ht] at hgives
    obtain ⟨a, ha, -⟩ := gives_map_iff.1 hgives
    exact h lost a ha

theorem Shows.option (h : Shows decode lists) (hnull : lists null = []) :
    Shows (decodeOption decode) lists :=
  fun _ _ _ => accounts_decodeOption hnull fun _ _ ha => h ha

/-- What is done with a value drops nothing. -/
theorem Shows.bind {f : α → Decoded β} (h : Shows decode lists)
    (hf : ∀ a lost b, (f a).Gives lost b → lost = 0) : Shows (fun t => decode t >>= f) lists := by
  intro t lost b hgives
  obtain ⟨a, first, second, ha, hb, rfl⟩ := gives_bind_iff.1 hgives
  rw [hf a second b hb, Multiset.add_zero]
  exact h ha

/-- A field of a record drops what its value drops. -/
theorem Shows.field (h : Shows decode lists) (name : String) (set : α → σ → σ) :
    Shows (RecordField.of name decode set).read lists := by
  intro t lost change hread
  obtain ⟨a, ha, -⟩ := RecordField.read_of_iff.1 hread
  exact h ha

/-- The items of a list drop what each of them drops. -/
theorem Shows.decodeItems (h : Shows decode lists) {items : List Tree} {values : List α}
    (hgives : (decodeItems decode items).Gives lost values) :
    Accounts lost (items.flatMap lists) := by
  induction items generalizing lost values with
  | nil => exact accounts_nil_iff.2 (gives_pure_iff.1 hgives).1
  | cons item rest ih =>
      obtain ⟨value, others, first, second, hvalue, hothers, rfl, -⟩ :=
        decodeItems_cons_gives_iff.1 hgives
      exact (h hvalue).append (ih hothers)

/-- A list drops what its items drop. -/
theorem Shows.list (h : Shows decode lists) :
    Shows (decodeList format decode) fun t => (items format t).flatMap lists :=
  fun _ _ _ hgives => h.decodeItems (decodeItems_of_decodeList hgives)

/-! ### Records -/

/-- The lists that are found in the values under some names. -/
def listsUnder (names : List String) (lists : Tree → List OutcomeList)
    (entries : List (String × Tree)) : List OutcomeList :=
  entries.flatMap fun e => if e.1 ∈ names then lists e.2 else []

section Records

variable {fields : List (RecordField σ)} {entries : List (String × Tree)} {names : List String}

theorem listsUnder_nil_names : listsUnder [] lists entries = [] := by simp [listsUnder]

/-- Where no entry is known to a record, all are left over. -/
theorem listsUnder_strangers (hnames : ∀ name ∈ names, fieldOf? fields name = none) :
    listsUnder names lists (strangers fields entries) = listsUnder names lists entries := by
  induction entries with
  | nil => rfl
  | cons e rest ih =>
      obtain ⟨name, value⟩ := e
      cases he : fieldOf? fields name with
      | none =>
          rw [strangers_cons_of_none he, listsUnder, List.flatMap_cons, ← listsUnder, ih]
          rfl
      | some f =>
          have hname : name ∉ names := fun h => by simp [hnames name h] at he
          rw [strangers_cons_of_some he, ih, listsUnder, listsUnder, List.flatMap_cons,
            if_neg hname]
          rfl

/-- The entries of a record account for what is dropped. -/
theorem accounts_of_reads {change : σ → σ}
    (hfields : ∀ e ∈ entries, ∀ f ∈ fields, f.name = e.1 → ∀ lost change,
      (f.read e.2).Gives lost change → Accounts lost (if e.1 ∈ names then lists e.2 else []))
    (hnames : ∀ name ∈ names, fieldOf? fields name ≠ none)
    (h : Reads fields entries lost change) : Accounts lost (listsUnder names lists entries) := by
  induction h with
  | nil => exact accounts_nil_iff.2 rfl
  | field hf hread _ ih =>
      obtain ⟨hentry, hrest⟩ := List.forall_mem_cons.1 hfields
      obtain ⟨hmem, hname⟩ := name_of_fieldOf? hf
      exact (hentry _ hmem hname _ _ hread).append (ih hrest)
  | @stranger name _ _ _ _ hnone _ ih =>
      have hname : name ∉ names := fun h => hnames name h hnone
      rw [listsUnder, List.flatMap_cons, if_neg hname]
      exact ih (List.forall_mem_cons.1 hfields).2

/-- A record shows what its fields show, which are those under the given names. -/
theorem shows_decodeRecord (hnodup : (fields.map RecordField.name).Nodup)
    (hfields : ∀ f ∈ fields, Shows f.read fun t => if f.name ∈ names then lists t else [])
    (hnames : ∀ name ∈ names, fieldOf? fields name ≠ none) (start : σ) :
    Shows (decodeRecord format fields start) fun t =>
      listsUnder names lists (given format fields t) := by
  intro t lost record h
  obtain ⟨change, hreads, -⟩ := reads_of_decodeRecord hnodup h
  refine accounts_of_reads (fun e _ f hf hname lost change hread => ?_) hnames hreads
  rw [← hname]
  exact hfields f hf hread

/-- A record of fields without outcomes drops nothing. -/
theorem silent_decodeRecord (hnodup : (fields.map RecordField.name).Nodup)
    (hfields : ∀ f ∈ fields, Silent f.read) (start : σ) :
    Silent (decodeRecord format fields start) := by
  intro t lost record h
  obtain ⟨change, hreads, -⟩ := reads_of_decodeRecord hnodup h
  have haccounts : Accounts lost (listsUnder [] (fun _ => []) (given format fields t)) :=
    accounts_of_reads (fun _ _ f hf _ _ _ hread => by simpa using hfields f hf hread)
      (List.forall_mem_nil _) hreads
  rwa [listsUnder_nil_names] at haccounts

end Records

end Shows

/-! ## Filters and single outcomes -/

theorem silent_decodeTexts : Silent (decodeTexts format) := by
  have hpairs : ∀ (entries : List (Tree × Tree)) lost pairs,
      (decodeTextPairs format entries).Gives lost pairs → lost = 0 := by
    intro entries
    induction entries with
    | nil => exact fun _ _ h => (gives_pure_iff.1 h).1
    | cons e rest ih =>
        intro lost pairs h
        obtain ⟨key, first, _, hkey, hvalue, rfl⟩ := gives_bind_iff.1 h
        obtain ⟨value, second, _, hread, hrest, rfl⟩ := gives_bind_iff.1 hvalue
        obtain ⟨others, third, _, hothers, hpure, rfl⟩ := gives_bind_iff.1 hrest
        rw [silent_iff.1 silent_decodeText hkey, silent_iff.1 silent_decodeText hread,
          ih third others hothers, (gives_pure_iff.1 hpure).1]
        rfl
  refine silent_iff.2 fun t lost texts h => ?_
  obtain ⟨entries, first, _, hentries, hrest, rfl⟩ := gives_bind_iff.1 h
  obtain ⟨pairs, hread, -⟩ := gives_map_iff.1 hrest
  rw [(decodeEntries_gives hentries).1, hpairs entries _ pairs hread, Multiset.zero_add]

theorem Filter.silent_decode : Silent (decode format) := by
  have hselector : Silent (decodeSelector format) :=
    silent_decodeRecord orderly_selectorFields.names
      (List.forall_mem_singleton.2 (silent_decodeTexts.field _ _)) _
  refine silent_decodeRecord orderly_fields.names (List.forall_mem_cons.2 ⟨?_, ?_⟩) _
  · exact (hselector.option rfl).field _ _
  · intro f hf
    obtain ⟨p, -, rfl⟩ := List.mem_map.1 hf
    exact (silent_decodeText.option rfl).field _ _

theorem OutcomeBody.silent_decode : Silent (decode format) := by
  refine silent_decodeRecord orderly_fields.names ?_ _
  simp only [fields, List.forall_mem_cons]
  exact ⟨silent_decodeText.field _ _, silent_decodeText.field _ _,
    (silent_decodeText.option rfl).field _ _, List.forall_mem_nil _⟩

theorem OutcomeEntry.silent_decode : Silent (decode format) := by
  have hbody : Silent (decodeOption (OutcomeBody.decode format)) :=
    OutcomeBody.silent_decode.option rfl
  refine silent_decodeRecord orderly_fields.names ?_ _
  simp only [fields, List.forall_mem_cons]
  exact ⟨hbody.field _ _, hbody.field _ _, hbody.field _ _, List.forall_mem_nil _⟩

/-! ## Lists that are read -/

/-- A single outcome is that of its entry. -/
theorem OutcomePlace.outcome?_eq {place : OutcomePlace} {entry : OutcomeEntry}
    (h : (OutcomeEntry.decode place.rules t).result = .ok entry) :
    place.outcome? t = entry.outcome? := by
  obtain ⟨lost, hgives⟩ := result_eq_ok_iff.1 h
  obtain rfl := silent_iff.1 OutcomeEntry.silent_decode hgives
  rw [outcome?, Outcome.decode, Decoded.gives_zero_iff.1 hgives]
  change (Decoded.require _ entry.outcome?).result.toOption = entry.outcome?
  cases entry.outcome? <;> rfl

namespace OutcomeList

variable {place : OutcomePlace} {ts : List Tree} {entries : List OutcomeEntry}

/-- Entries that are read one by one are outcomes as far as they declare one. -/
theorem map_outcome?_eq
    (h : List.Forall₂ (fun t entry => (OutcomeEntry.decode place.rules t).result = .ok entry)
      ts entries) : ts.map place.outcome? = entries.map OutcomeEntry.outcome? := by
  induction h with
  | nil => rfl
  | cons hentry _ ih => rw [List.map_cons, List.map_cons, OutcomePlace.outcome?_eq hentry, ih]

/-- The outcomes of a list are those of its entries that declare one. -/
theorem kept_eq (h : ts.map place.outcome? = entries.map OutcomeEntry.outcome?) :
    kept ⟨place, ts⟩ = entries.filterMap OutcomeEntry.outcome? := by
  have hmap := congrArg (List.filterMap id) h
  rwa [List.filterMap_map, List.filterMap_map, Function.id_comp, Function.id_comp] at hmap

/-- What is no outcome is what the outcomes leave of the entries. -/
theorem lost_eq (h : ts.map place.outcome? = entries.map OutcomeEntry.outcome?) :
    OutcomeList.lost ⟨place, ts⟩ =
      entries.length - (entries.filterMap OutcomeEntry.outcome?).length := by
  have hcount := congrArg (List.countP Option.isNone) h
  rw [List.countP_map, List.countP_map] at hcount
  have hlength : entries.length = entries.countP (Option.isSome ∘ OutcomeEntry.outcome?) +
      entries.countP (Option.isNone ∘ OutcomeEntry.outcome?) := by
    rw [List.length_eq_countP_add_countP (Option.isSome ∘ OutcomeEntry.outcome?)]
    exact congrArg _ (List.countP_congr fun entry _ => by simp)
  rw [List.length_filterMap_eq_countP, hlength]
  exact hcount.trans (Nat.add_sub_cancel_left ..).symm

end OutcomeList

/-- **A list of entries that can be read is read as its outcomes**, in order. -/
theorem decodeOutcomes_eq_kept {place : OutcomePlace} {ts : List Tree}
    (h : HasItems place.rules t ts)
    (hreadable : ∀ t ∈ ts, ∃ entry, (OutcomeEntry.decode place.rules t).result = .ok entry) :
    (decodeOutcomes place.rules t).result = .ok (OutcomeList.kept ⟨place, ts⟩) := by
  obtain ⟨entries, hentries⟩ := exists_decodeItems hreadable
  have hmap := OutcomeList.map_outcome?_eq (decodeItems_result_iff.1 hentries)
  rw [decodeOutcomes, h.decodeList_eq]
  exact result_bind_iff.2 ⟨entries, hentries, congrArg Except.ok (OutcomeList.kept_eq hmap).symm⟩

/-- A list that is read drops the number of entries that it has lost, if it has lost any. -/
theorem lost_of_decodeOutcomes {place : OutcomePlace} {outcomes : List Outcome}
    (h : (decodeOutcomes place.rules t).Gives lost outcomes) :
    lost = [place.listOf t].filterMap OutcomeList.lost? := by
  obtain ⟨entries, first, second, hlist, hkeep, rfl⟩ := gives_bind_iff.1 h
  have hentries := decodeItems_result_iff.1 (decodeItems_of_decodeList hlist).result
  have hfirst : first = 0 := by
    have haccounts := OutcomeEntry.silent_decode.list hlist
    have hnil : ((items place.rules t).flatMap fun _ => ([] : List OutcomeList)) = [] :=
      List.flatMap_eq_nil_iff.2 fun _ _ => rfl
    exact accounts_nil_iff.1 (hnil ▸ haccounts)
  rw [hfirst, Multiset.zero_add, ← hkeep.dropped, OutcomePlace.listOf, List.filterMap_cons,
    OutcomeList.lost?, OutcomeList.lost_eq (OutcomeList.map_outcome?_eq hentries), keepOutcomes]
  cases entries.length - (entries.filterMap OutcomeEntry.outcome?).length with
  | zero => rfl
  | succ n => rfl

/-- A list that is read has entries that are all well-typed. -/
theorem accounts_decodeOutcomes (place : OutcomePlace) {outcomes : List Outcome}
    (hplain : place = .alternative → t.isPlain = true)
    (h : (decodeOutcomes place.rules t).Gives lost outcomes) :
    Accounts lost [place.listOf t] := by
  refine ⟨lost_of_decodeOutcomes h, List.forall_mem_singleton.2 fun item hitem => ?_⟩
  obtain ⟨entries, first, second, hlist, -⟩ := gives_bind_iff.1 h
  have hentries := decodeItems_result_iff.1 (decodeItems_of_decodeList hlist).result
  obtain ⟨entry, -, hentry⟩ := Dictionary.exists_mem_of_forall₂ hentries.flip hitem
  exact ⟨⟨entry, hentry⟩, fun hplace => isPlain_of_mem_items (hplain hplace) hitem⟩

/-! ## The lists of a document -/

/-- The list of outcomes of criteria that are an alternative. -/
def Criteria.outcomeLists (t : Tree) : List OutcomeList :=
  listsUnder ["outcomes"] (fun t => [OutcomePlace.alternative.listOf t])
    (given .json (fields .json) t)

/-- The lists of outcomes of a check: its own and those of the alternatives to it. -/
def NodeCheck.outcomeLists (format : Format) (t : Tree) : List OutcomeList :=
  let entries := given format (fields format) t
  listsUnder ["outcomes"] (fun t => [(OutcomePlace.own format).listOf t]) entries ++
    listsUnder ["onInstall", "onUpdate"] Criteria.outcomeLists entries

/-- The lists of outcomes of an entry of a list of analyzers. -/
def AnalyzerEntry.outcomeLists (format : Format) (t : Tree) : List OutcomeList :=
  listsUnder ["nodeResources"] (NodeCheck.outcomeLists format) (given format (fields format) t)

namespace PreflightDocument

/-- The lists of outcomes of a list of analyzers. -/
def analyzersLists (format : Format) (t : Tree) : List OutcomeList :=
  (items format t).flatMap (AnalyzerEntry.outcomeLists format)

/-- The lists of outcomes of the body of a document. -/
def bodyLists (format : Format) (t : Tree) : List OutcomeList :=
  listsUnder ["analyzers"] (analyzersLists format) (given format (bodyFields format) t)

/-- **The lists of outcomes of a document.** -/
def outcomeLists (format : Format) (t : Tree) : List OutcomeList :=
  match t.stripped format with
  | list _ => analyzersLists format t
  | _ => listsUnder ["spec"] (bodyLists format) (given format (fields format) t)

end PreflightDocument

/-! ### Checks -/

/-- Criteria that are an alternative drop what their one list has lost. -/
theorem Criteria.accounts {criteria : Criteria} (hplain : t.isPlain = true)
    (h : (decode .json t).Gives lost criteria) : Accounts lost (outcomeLists t) := by
  obtain ⟨change, hreads, -⟩ := reads_of_decodeRecord orderly_fields.names h
  refine accounts_of_reads (fun e he f hf hname lost change hread => ?_)
    (by simp [fieldOf?, fields]) hreads
  rw [← hname]
  simp only [fields, List.mem_cons, List.not_mem_nil, or_false] at hf
  obtain rfl | rfl := hf
  · exact (Filter.silent_decode.option rfl).field _ _ hread
  · obtain ⟨outcomes, houtcomes, -⟩ := RecordField.read_of_iff.1 hread
    have hentry := isPlain_of_mem_given hplain he
    exact accounts_decodeOutcomes .alternative (fun _ => hentry) houtcomes

theorem WorkloadRef.silent_decode : Silent (decode format) := by
  have hparts : Silent (decodeRecord format (fields format) (none, none)) := by
    refine silent_decodeRecord orderly_fields.names ?_ _
    simp only [fields, List.forall_mem_cons]
    exact ⟨silent_decodeText.field _ _, silent_decodeText.field _ _, List.forall_mem_nil _⟩
  rw [decode_eq]
  refine hparts.bind fun parts lost workload h => ?_
  obtain ⟨ns, _, _, hns, hrest, rfl⟩ := gives_bind_iff.1 h
  obtain ⟨name, hname, -⟩ := gives_map_iff.1 hrest
  rw [(gives_require_iff.1 hns).1, (gives_require_iff.1 hname).1, Multiset.zero_add]

/-- What ties a check to a workload drops what the lists of the two alternatives have lost. -/
theorem Gating.accounts {others : List (String × Tree)} {gating : Gating}
    (hplain : ∀ e ∈ others, e.2.isPlain = true) (h : (decode others).Gives lost gating) :
    Accounts lost (listsUnder ["onInstall", "onUpdate"] Criteria.outcomeLists others) := by
  rw [decode_eq] at h
  obtain ⟨change, hreads, -⟩ := reads_of_decodeRecord orderly_fields.names h
  rw [given_map_named] at hreads
  refine accounts_of_reads (fun e he f hf hname lost change hread => ?_)
    (by simp [fieldOf?, fields]) hreads
  have hcriteria (set : Option Criteria → Gating → Gating)
      (hread : (RecordField.read (.of f.name (decodeOption (Criteria.decode .json)) set) e.2).Gives
        lost change) : Accounts lost (Criteria.outcomeLists e.2) := by
    obtain ⟨criteria, hdecode, -⟩ := RecordField.read_of_iff.1 hread
    exact accounts_decodeOption rfl (fun _ _ => Criteria.accounts (hplain e he)) hdecode
  rw [← hname]
  simp only [fields, List.mem_cons, List.not_mem_nil, or_false] at hf
  obtain rfl | rfl | rfl := hf
  · exact (WorkloadRef.silent_decode.option rfl).field _ _ hread
  · exact hcriteria _ hread
  · exact hcriteria _ hread

/-- A check drops what its own list and those of its alternatives have lost. -/
theorem NodeCheck.shows_decode : Shows (decode format) (outcomeLists format) := by
  intro t lost check h
  rw [decode_eq] at h
  obtain ⟨⟨known, others⟩, first, second, hopen, hgating, rfl⟩ := gives_bind_iff.1 h
  obtain ⟨change, hreads, -, hothers, hplain⟩ := reads_of_decodeOpenRecord hopen
  -- The alternatives are found among the entries that are left over, which carry no tags.
  refine Accounts.append ?_ ?_
  · refine accounts_of_reads (fun e he f hf hname lost change hread => ?_)
      (by simp [fieldOf?, fields]) hreads
    rw [← hname]
    simp only [fields, List.mem_cons, List.not_mem_nil, or_false] at hf
    obtain rfl | rfl | rfl := hf
    · exact silent_decodeText.field _ _ hread
    · exact (Filter.silent_decode.option rfl).field _ _ hread
    · obtain ⟨outcomes, houtcomes, -⟩ := RecordField.read_of_iff.1 hread
      exact accounts_decodeOutcomes (.own format) (fun hplace => OutcomePlace.noConfusion hplace)
        houtcomes
  · obtain ⟨gating, hread, -⟩ := gives_map_iff.1 hgating
    have haccounts := Gating.accounts hplain hread
    rwa [← hothers, listsUnder_strangers (by simp [fieldOf?, fields])] at haccounts

/-! ### Documents -/

/-- An entry of a list of analyzers drops what the lists of its check have lost. -/
theorem AnalyzerEntry.shows_decode : Shows (decode format) (outcomeLists format) := by
  intro t lost entry h
  rw [decode_eq] at h
  obtain ⟨⟨known, others⟩, first, second, hopen, hrest, rfl⟩ := gives_bind_iff.1 h
  obtain ⟨change, hreads, -⟩ := reads_of_decodeOpenRecord hopen
  obtain ⟨unsupported, hread, -⟩ := gives_map_iff.1 hrest
  rw [(decodeUnsupported_gives_iff.1 hread).1, Multiset.add_zero]
  refine accounts_of_reads (fun e he f hf hname lost change hread => ?_)
    (by simp [fieldOf?, fields]) hreads
  rw [← hname]
  obtain rfl := List.mem_singleton.1 hf
  exact (NodeCheck.shows_decode.option (by cases format <;> rfl)).field _ _ hread

namespace PreflightDocument

theorem shows_decodeAnalyzers : Shows (decodeAnalyzers format) (analyzersLists format) :=
  AnalyzerEntry.shows_decode.list

theorem shows_decodeBody :
    Shows (Tree.decodeRecord format (bodyFields format) []) (bodyLists format) :=
  shows_decodeRecord orderly_bodyFields.names
    (List.forall_mem_singleton.2 (shows_decodeAnalyzers.field _ _))
    (by simp [fieldOf?, bodyFields]) _

/-- A document that is a record drops what the lists of its body have lost. -/
theorem shows_decodeRecord : Shows (decodeRecord format) fun t =>
    listsUnder ["spec"] (bodyLists format) (given format (fields format) t) := by
  have htext : Silent (decodeOption (decodeText format)) := silent_decodeText.option rfl
  have hmetadata : Silent (Tree.decodeRecord format (metadataFields format) none) :=
    silent_decodeRecord orderly_metadataFields.names
      (List.forall_mem_singleton.2 (htext.field _ _)) _
  refine NodeFit.shows_decodeRecord orderly_fields.names ?_
    (by simp [fieldOf?, fields]) _
  simp only [fields, List.forall_mem_cons]
  exact ⟨htext.field _ _, htext.field _ _, hmetadata.field _ _, shows_decodeBody.field _ _,
    List.forall_mem_nil _⟩

theorem outcomeLists_of_list {ts : List Tree} (h : t.stripped format = list ts) :
    outcomeLists format t = analyzersLists format t := by
  rw [outcomeLists, h]

theorem outcomeLists_of_not_list (h : ∀ ts, t.stripped format ≠ list ts) :
    outcomeLists format t =
      listsUnder ["spec"] (bodyLists format) (given format (fields format) t) := by
  unfold outcomeLists
  split
  · next heq => exact absurd heq (h _)
  · rfl

/-- **What a document drops is what its lists have lost**, and all of their entries are
well-typed. -/
theorem shows_decode : Shows (decode format) (outcomeLists format) := by
  intro t lost d h
  by_cases hlist : ∃ ts, t.stripped format = list ts
  · obtain ⟨ts, hts⟩ := hlist
    rw [decode_of_list hts] at h
    rw [outcomeLists_of_list hts]
    obtain ⟨analyzers, hread, -⟩ := gives_map_iff.1 h
    exact shows_decodeAnalyzers hread
  · have hlist : ∀ ts, t.stripped format ≠ list ts := not_exists.1 hlist
    rw [decode_of_not_list hlist] at h
    rw [outcomeLists_of_not_list hlist]
    exact shows_decodeRecord h

end PreflightDocument
end NodeFit
