import NodeFit.Command.Log
import NodeFit.Proofs.Document.Outcomes
import NodeFit.Proofs.Tree.Variation

/-!
# NodeFit.Proofs.Document.Insertion

Entries of lists of outcomes that name no verdict.

Such entries may be put in anywhere (`OutcomePlace.Padded`), into the list of a check
itself and into those of its alternatives, in any check of a document
(`PreflightDocument.Padded`).  They change nothing but the numbers of entries that are
reported as dropped (`PreflightDocument.decode_padded`).

The insertion is a relation on lists of trees, carried up level by level to documents.  On every
level there are two statements:

* the decoder of the level ignores it (`Ignores`), so that the document that is read is the same;
* the lists of outcomes that are found in the two trees stand in pairs (`OutcomeList.PaddedTo`),
  with as many entries more lost as were put in.

What is logged follows from the second.  Each list that has lost entries has one warning with
their number, and no other list has any (`OutcomeList.exists_warnsOf`).
-/

namespace NodeFit

open Decoded (gives_pure_iff result_bind_iff result_map_iff result_eq_ok_iff)
open NodeFit.Tree

variable {format : Format} {t t' : Tree}

/-! ## Entries without a verdict -/

/-- The entry has an outcome: its body stands under the verdict, and nothing under a graver
one. -/
def OutcomeEntry.Declares (entry : OutcomeEntry) (o : Outcome) : Prop :=
  match o.verdict with
  | .fail => entry.fail = some o.body
  | .warn => entry.fail = none ∧ entry.warn = some o.body
  | .pass => entry.fail = none ∧ entry.warn = none ∧ entry.pass = some o.body

/-- Of several verdicts the gravest counts. -/
theorem OutcomeEntry.outcome?_eq_some_iff {entry : OutcomeEntry} {o : Outcome} :
    entry.outcome? = some o ↔ entry.Declares o := by
  obtain ⟨fail, warn, pass⟩ := entry
  obtain ⟨verdict, body⟩ := o
  cases fail <;> cases warn <;> cases pass <;> cases verdict <;>
    simp [OutcomeEntry.outcome?, OutcomeEntry.Declares]

/-- Values that are null leave an entry as it is at first. -/
theorem OutcomeEntry.change_of_reads {given : List (String × Tree)} {lost : Multiset Nat}
    {change : OutcomeEntry → OutcomeEntry} (h : Reads (fields format) given lost change)
    (hnull : ∀ e ∈ given, e.1 ∈ ["fail", "warn", "pass"] → e.2 = null) :
    change ⟨none, none, none⟩ = ⟨none, none, none⟩ := by
  induction h with
  | nil => rfl
  | stranger _ _ ih => exact ih (List.forall_mem_cons.1 hnull).2
  | @field name value _ f _ _ change _ hf hread _ ih =>
      obtain ⟨hhead, hrest⟩ := List.forall_mem_cons.1 hnull
      obtain ⟨hmem, rfl⟩ := name_of_fieldOf? hf
      simp only [fields, List.mem_cons, List.not_mem_nil, or_false] at hmem
      have hname : f.name ∈ ["fail", "warn", "pass"] := by
        obtain rfl | rfl | rfl := hmem <;> simp
      obtain rfl : value = null := hhead hname
      have hchange : change ⟨none, none, none⟩ = ⟨none, none, none⟩ := by
        obtain rfl | rfl | rfl := hmem
        all_goals
          obtain ⟨body, hbody, rfl⟩ := RecordField.read_of_iff.1 hread
          obtain ⟨-, rfl⟩ := gives_pure_iff.1 hbody
          rfl
      rw [Function.comp_apply, hchange, ih hrest]

namespace OutcomePlace

variable {place : OutcomePlace}

/-- The entry names no verdict, or gives null for those that it names. -/
def NamesNone (place : OutcomePlace) (t : Tree) : Prop :=
  ∀ e ∈ given place.rules (OutcomeEntry.fields place.rules) t,
    e.1 ∈ ["fail", "warn", "pass"] → e.2 = null

/-- An entry is an outcome if it can be read and declares it. -/
theorem outcome?_eq_some_iff {o : Outcome} : place.outcome? t = some o ↔
    ∃ entry, (OutcomeEntry.decode place.rules t).result = .ok entry ∧ entry.Declares o := by
  constructor
  · intro h
    obtain ⟨entry, hentry, -⟩ := result_bind_iff.1 (toOption_eq_some_iff.1 h)
    rw [outcome?_eq hentry, OutcomeEntry.outcome?_eq_some_iff] at h
    exact ⟨entry, hentry, h⟩
  · intro h
    obtain ⟨entry, hentry, hdeclares⟩ := h
    rw [outcome?_eq hentry]
    exact OutcomeEntry.outcome?_eq_some_iff.2 hdeclares

/-- An entry that names no verdict is read as one without any body. -/
theorem decode_of_namesNone (h : place.NamesNone t) {entry : OutcomeEntry}
    (hentry : (OutcomeEntry.decode place.rules t).result = .ok entry) :
    entry = ⟨none, none, none⟩ := by
  obtain ⟨lost, hgives⟩ := result_eq_ok_iff.1 hentry
  obtain ⟨change, hreads, rfl⟩ := reads_of_decodeRecord OutcomeEntry.orderly_fields.names hgives
  exact OutcomeEntry.change_of_reads hreads h

/-- An entry that names no verdict is no outcome. -/
theorem outcome?_eq_none (hadmits : place.Admits t) (h : place.NamesNone t) :
    place.outcome? t = none := by
  obtain ⟨entry, hentry⟩ := hadmits.1
  rw [outcome?_eq hentry, decode_of_namesNone h hentry]
  rfl

end OutcomePlace

/-! ## Lists with such entries put in -/

/-- The second list is the first with entries put in that name no verdict. -/
inductive OutcomePlace.Padded (place : OutcomePlace) : List Tree → List Tree → Prop where
  | nil : Padded place [] []
  | keep {t ts ts'} : Padded place ts ts' → Padded place (t :: ts) (t :: ts')
  | insert {t ts ts'} : place.Admits t → place.NamesNone t → Padded place ts ts' →
      Padded place ts (t :: ts')

namespace OutcomePlace.Padded

variable {place : OutcomePlace} {ts ts' : List Tree}

theorem refl : ∀ ts, place.Padded ts ts
  | [] => .nil
  | _ :: ts => .keep (refl ts)

/-- What holds of the entries of a list, and of every well-typed entry, holds of the entries of
the padded list. -/
theorem forall_mem {P : Tree → Prop} (hP : ∀ t, place.Admits t → P t) (h : place.Padded ts ts')
    (hts : ∀ t ∈ ts, P t) : ∀ t ∈ ts', P t := by
  induction h with
  | nil => exact hts
  | keep _ ih =>
      obtain ⟨ht, hrest⟩ := List.forall_mem_cons.1 hts
      exact List.forall_mem_cons.2 ⟨ht, ih hrest⟩
  | insert hadmits _ _ ih => exact List.forall_mem_cons.2 ⟨hP _ hadmits, ih hts⟩

/-- The outcomes of a list are those of the padded list. -/
theorem kept_eq (h : place.Padded ts ts') :
    OutcomeList.kept ⟨place, ts'⟩ = OutcomeList.kept ⟨place, ts⟩ := by
  simp only [OutcomeList.kept]
  induction h with
  | nil => rfl
  | keep _ ih => rw [List.filterMap_cons, List.filterMap_cons, ih]
  | insert hadmits hnone _ ih => rw [List.filterMap_cons, outcome?_eq_none hadmits hnone, ih]

end OutcomePlace.Padded

/-- **A list of outcomes ignores entries without a verdict.** -/
theorem ignores_decodeOutcomes (place : OutcomePlace) :
    Ignores (decodeOutcomes place.rules) (ListsVary place.rules place.Padded) := by
  intro t t' outcomes hvary h
  obtain ⟨ts, ts', ht, ht', hpadded⟩ := hvary
  have hreadable : ∀ t ∈ ts, ∃ entry, (OutcomeEntry.decode place.rules t).result = .ok entry := by
    rw [decodeOutcomes, ht.decodeList_eq] at h
    obtain ⟨entries, hentries, -⟩ := result_bind_iff.1 h
    intro t ht
    obtain ⟨entry, -, hentry⟩ :=
      Dictionary.exists_mem_of_forall₂ (decodeItems_result_iff.1 hentries).flip ht
    exact ⟨entry, hentry⟩
  have hreadable' := hpadded.forall_mem (fun _ hadmits => hadmits.1) hreadable
  rw [decodeOutcomes_eq_kept ht' hreadable', hpadded.kept_eq, ← decodeOutcomes_eq_kept ht hreadable,
    h]

/-! ## Documents with such entries put in -/

/-- Entries are put into the list of criteria that are an alternative. -/
def Criteria.Padded : Tree → Tree → Prop :=
  RecordsVary .json (fields .json)
    (VaryUnder ["outcomes"] (ListsVary .json OutcomePlace.alternative.Padded))

namespace NodeCheck

/-- Entries are put into the list of a check, or into that of an alternative. -/
def ValuePadded (format : Format) (name : String) (t t' : Tree) : Prop :=
  VaryUnder ["outcomes"] (ListsVary format (OutcomePlace.own format).Padded) name t t' ∨
    VaryUnder ["onInstall", "onUpdate"] Criteria.Padded name t t'

/-- Entries are put into the lists of a check and of the alternatives to it. -/
def Padded (format : Format) : Tree → Tree → Prop :=
  RecordsVary format (fields format) (ValuePadded format)

end NodeCheck

/-- Entries are put into the lists of a check in an entry of a list of analyzers. -/
def AnalyzerEntry.Padded (format : Format) : Tree → Tree → Prop :=
  RecordsVary format (fields format) (VaryUnder ["nodeResources"] (NodeCheck.Padded format))

namespace PreflightDocument

/-- Entries are put into the lists of some analyzers. -/
def AnalyzersPadded (format : Format) : Tree → Tree → Prop :=
  ListsVary format (List.Forall₂ fun t t' => t = t' ∨ AnalyzerEntry.Padded format t t')

/-- Entries are put into the lists of the body of a document. -/
def BodyPadded (format : Format) : Tree → Tree → Prop :=
  RecordsVary format (bodyFields format) (VaryUnder ["analyzers"] (AnalyzersPadded format))

/-- **The second document is the first with entries put into its lists of outcomes** that name
no verdict. -/
inductive Padded (format : Format) (t t' : Tree) : Prop where
  | list {ts ts'} : t.stripped format = .list ts → t'.stripped format = .list ts' →
      AnalyzersPadded format t t' → Padded format t t'
  | record : (∀ ts, t.stripped format ≠ .list ts) →
      RecordsVary format (fields format) (VaryUnder ["spec"] (BodyPadded format)) t t' →
      Padded format t t'

end PreflightDocument

/-! ## What is read from them -/

/-- Criteria ignore what is put into their list. -/
theorem Criteria.ignores_decode : Ignores (decode .json) Padded := by
  refine ignores_decodeRecord ?_ _
  simp only [List.forall_mem_cons]
  exact ⟨ignores_under_of_not_mem (by simp),
    ((ignores_decodeOutcomes .alternative).field _ _).under _ _, List.forall_mem_nil _⟩

/-- Criteria without tags have none after the insertion. -/
theorem Criteria.isPlain_of_padded (h : Padded t t') (ht : t.isPlain = true) :
    t'.isPlain = true := by
  refine RecordsVary.isPlain (fun name t t' hvary ht => hvary.2.isPlain ?_ ht) h ht
  exact fun ts ts' hpadded => hpadded.forall_mem fun t hadmits => hadmits.2 rfl

namespace NodeCheck

theorem ignores_outcomes : Ignores (RecordField.read (.of "outcomes" (decodeOutcomes format)
    fun os (c : NodeCheck) => { c with own := { c.own with outcomes := os } }))
    (ValuePadded format "outcomes") :=
  (((ignores_decodeOutcomes (.own format)).field _ _).under _ _).or
    (ignores_under_of_not_mem (by simp))

/-- A field that holds no outcomes is the same in both documents. -/
theorem ignores_of_not_mem {α : Type} {decode : Tree → Decoded α} {name : String}
    (h : name ∉ ["outcomes", "onInstall", "onUpdate"]) :
    Ignores decode (ValuePadded format name) := by
  simp only [List.mem_cons, List.not_mem_nil, or_false, not_or] at h
  exact (ignores_under_of_not_mem (by simpa using h.1)).or
    (ignores_under_of_not_mem (by simpa using h.2))

end NodeCheck

/-- The fields that tie a check to a workload ignore entries put into its alternatives. -/
theorem Gating.decode_of_padded {others others' : List (String × Tree)} {gating : Gating}
    (hvary : List.Forall₂ (EntriesVary (NodeCheck.ValuePadded format)) others others')
    (h : (decode others).result = .ok gating) : (decode others').result = .ok gating := by
  have hcriteria : Ignores (decodeOption (Criteria.decode .json)) Criteria.Padded :=
    Criteria.ignores_decode.option fun _ _ h => h.ne_null
  have hfields : ∀ f ∈ fields, Ignores f.read (NodeCheck.ValuePadded format f.name) := by
    simp only [fields, List.forall_mem_cons]
    refine ⟨NodeCheck.ignores_of_not_mem (by simp), ?_, ?_, List.forall_mem_nil _⟩
    · exact (ignores_under_of_not_mem (by simp)).or
        ((hcriteria.field _ _).under _ _)
    · exact (ignores_under_of_not_mem (by simp)).or
        ((hcriteria.field _ _).under _ _)
  rw [decode_eq] at h ⊢
  exact ignores_decodeRecord hfields none (.map rfl rfl (forall₂_named hvary)) h

/-- A check ignores what is put into its lists. -/
theorem NodeCheck.ignores_decode : Ignores (decode format) (Padded format) := by
  intro t t' check hvary h
  have hfields : ∀ f ∈ fields format, Ignores f.read (ValuePadded format f.name) := by
    simp only [fields, List.forall_mem_cons]
    exact ⟨ignores_of_not_mem (by simp),
      ignores_of_not_mem (by simp), ignores_outcomes, List.forall_mem_nil _⟩
  have hplain : ∀ name t t', fieldOf? (fields format) name = none → ValuePadded format name t t' →
      t.isPlain = true → t'.isPlain = true := by
    intro name t t' hnone hvary ht
    obtain ⟨hname, -⟩ | ⟨-, hcriteria⟩ := hvary
    · obtain rfl := List.mem_singleton.1 hname
      simp [fieldOf?, fields] at hnone
    · exact Criteria.isPlain_of_padded hcriteria ht
  rw [decode_eq] at h ⊢
  obtain ⟨⟨known, others⟩, hopen, hrest⟩ := result_bind_iff.1 h
  obtain ⟨gating, hgating, hcheck⟩ := result_map_iff.1 hrest
  obtain ⟨others', hopen', hothers⟩ := exists_decodeOpenRecord_of_varies hfields hplain hvary hopen
  exact result_bind_iff.2 ⟨(known, others'), hopen',
    result_map_iff.2 ⟨gating, Gating.decode_of_padded hothers hgating, hcheck⟩⟩

/-- An entry of a list of analyzers ignores what is put into the lists of its check. -/
theorem AnalyzerEntry.ignores_decode : Ignores (decode format) (Padded format) := by
  intro t t' entry hvary h
  have hcheck : Ignores (decodeOption (NodeCheck.decode format)) (NodeCheck.Padded format) :=
    NodeCheck.ignores_decode.option fun _ _ h => h.ne_null
  have hfields : ∀ f ∈ fields format,
      Ignores f.read (VaryUnder ["nodeResources"] (NodeCheck.Padded format) f.name) :=
    List.forall_mem_singleton.2 ((hcheck.field _ _).under _ _)
  have hstranger {name : String} (hnone : fieldOf? (fields format) name = none) :
      name ∉ ["nodeResources"] := by
    intro hname
    obtain rfl := List.mem_singleton.1 hname
    simp [fieldOf?, fields] at hnone
  rw [decode_eq] at h ⊢
  obtain ⟨⟨known, others⟩, hopen, hrest⟩ := result_bind_iff.1 h
  obtain ⟨others', hopen', hothers⟩ := exists_decodeOpenRecord_of_varies hfields
    (fun name t t' hnone hvary => absurd hvary.1 (hstranger hnone)) hvary hopen
  -- Analyzers of other kinds are kept as they are, so that none of them may vary.
  obtain ⟨lost, hgives⟩ := result_eq_ok_iff.1 hopen
  obtain rfl := eq_of_forall₂_under hothers fun e he =>
    hstranger (fieldOf?_of_decodeOpenRecord hgives he)
  exact result_bind_iff.2 ⟨(known, others), hopen', hrest⟩

namespace PreflightDocument

theorem ignores_decodeAnalyzers : Ignores (decodeAnalyzers format) (AnalyzersPadded format) :=
  AnalyzerEntry.ignores_decode.list

theorem ignores_decodeBody :
    Ignores (Tree.decodeRecord format (bodyFields format) []) (BodyPadded format) :=
  ignores_decodeRecord (List.forall_mem_singleton.2
    ((ignores_decodeAnalyzers.field _ _).under _ _)) _

/-- A document that is a record ignores what is put into the lists of its body. -/
theorem ignores_decodeRecord : Ignores (decodeRecord format)
    (RecordsVary format (fields format) (VaryUnder ["spec"] (BodyPadded format))) := by
  refine Tree.ignores_decodeRecord ?_ _
  simp only [List.forall_mem_cons]
  exact ⟨ignores_under_of_not_mem (by simp),
    ignores_under_of_not_mem (by simp),
    ignores_under_of_not_mem (by simp),
    (ignores_decodeBody.field _ _).under _ _, List.forall_mem_nil _⟩

/-- **A document ignores entries without a verdict.** -/
theorem ignores_decode : Ignores (decode format) (Padded format) := by
  intro t t' d hvary h
  cases hvary with
  | list ht ht' hanalyzers =>
      rw [decode_of_list ht] at h
      rw [decode_of_list ht']
      exact ignores_decodeAnalyzers.map ofAnalyzers hanalyzers h
  | record hlist hrecord =>
      rw [decode_of_not_list hlist] at h
      rw [decode_of_not_list (hrecord.ne_list hlist)]
      exact ignores_decodeRecord hrecord h

end PreflightDocument

/-! ## The lists after the insertion -/

/-- The second list stands where the first one does, with entries put in. -/
def OutcomeList.PaddedTo (l l' : OutcomeList) : Prop :=
  l.place = l'.place ∧ l.place.Padded l.entries l'.entries

/-- Each entry that is put in is one more that is lost. -/
theorem OutcomeList.PaddedTo.lost_eq {l l' : OutcomeList} (h : l.PaddedTo l') :
    l'.lost + l.entries.length = l.lost + l'.entries.length := by
  obtain ⟨place, ts⟩ := l
  obtain ⟨place', ts'⟩ := l'
  obtain ⟨rfl, hpadded⟩ := h
  simp only [OutcomeList.lost]
  change place.Padded ts ts' at hpadded
  induction hpadded with
  | nil => rfl
  | keep _ ih =>
      simp only [List.countP_cons, List.length_cons]
      omega
  | insert hadmits hnone _ ih =>
      simp only [List.countP_cons, List.length_cons,
        OutcomePlace.outcome?_eq_none hadmits hnone, Option.isNone_none, if_pos]
      omega

theorem forall₂_paddedTo_refl (ls : List OutcomeList) : List.Forall₂ OutcomeList.PaddedTo ls ls :=
  List.forall₂_same.2 fun _ _ => ⟨rfl, .refl _⟩

theorem paddedTo_listOf (place : OutcomePlace)
    (h : ListsVary place.rules place.Padded t t') :
    List.Forall₂ OutcomeList.PaddedTo [place.listOf t] [place.listOf t'] := by
  obtain ⟨ts, ts', ht, ht', hpadded⟩ := h
  rw [OutcomePlace.listOf, OutcomePlace.listOf, ht.items_eq, ht'.items_eq]
  exact .cons ⟨rfl, hpadded⟩ .nil

section Under

variable {S : String → Tree → Tree → Prop} {names : List String} {lists : Tree → List OutcomeList}

/-- Lists that stand in pairs under each name do so under all of them, in the order of the names.
-/
theorem paddedTo_listsUnder {entries entries' : List (String × Tree)}
    (hlists : ∀ name ∈ names, ∀ t t', S name t t' →
      List.Forall₂ OutcomeList.PaddedTo (lists t) (lists t'))
    (h : List.Forall₂ (EntriesVary S) entries entries') :
    List.Forall₂ OutcomeList.PaddedTo (listsUnder names lists entries)
      (listsUnder names lists entries') := by
  induction h with
  | nil => exact .nil
  | @cons e e' _ _ he _ ih =>
      rw [listsUnder, listsUnder, List.flatMap_cons, List.flatMap_cons, ← he.1]
      refine List.rel_append ?_ ih
      split
      · next hname =>
        obtain heq | hvary := he.2
        · exact heq ▸ forall₂_paddedTo_refl _
        · exact hlists e.1 hname e.2 e'.2 hvary
      · exact .nil

end Under

theorem Criteria.paddedTo_outcomeLists (h : Padded t t') :
    List.Forall₂ OutcomeList.PaddedTo (outcomeLists t) (outcomeLists t') :=
  paddedTo_listsUnder
    (fun _ _ _ _ hvary => paddedTo_listOf .alternative hvary.2) h.given

/-- The lists of a check stand in pairs: its own, then those of its alternatives. -/
theorem NodeCheck.paddedTo_outcomeLists (h : Padded format t t') :
    List.Forall₂ OutcomeList.PaddedTo (outcomeLists format t) (outcomeLists format t') := by
  refine List.rel_append ?_ ?_
  · refine paddedTo_listsUnder (fun name hname t t' hvary => ?_) h.given
    obtain rfl := List.mem_singleton.1 hname
    obtain ⟨-, hlist⟩ | ⟨hname, -⟩ := hvary
    · exact paddedTo_listOf (.own format) hlist
    · simp at hname
  · refine paddedTo_listsUnder (fun name hname t t' hvary => ?_) h.given
    obtain ⟨hown, -⟩ | ⟨-, hcriteria⟩ := hvary
    · obtain rfl := List.mem_singleton.1 hown
      simp at hname
    · exact Criteria.paddedTo_outcomeLists hcriteria

theorem AnalyzerEntry.paddedTo_outcomeLists (h : Padded format t t') :
    List.Forall₂ OutcomeList.PaddedTo (outcomeLists format t) (outcomeLists format t') :=
  paddedTo_listsUnder (fun _ _ _ _ hvary => NodeCheck.paddedTo_outcomeLists hvary.2) h.given

namespace PreflightDocument

theorem paddedTo_analyzersLists (h : AnalyzersPadded format t t') :
    List.Forall₂ OutcomeList.PaddedTo (analyzersLists format t) (analyzersLists format t') := by
  obtain ⟨ts, ts', ht, ht', hitems⟩ := h
  rw [analyzersLists, analyzersLists, ht.items_eq, ht'.items_eq]
  clear ht ht'
  induction hitems with
  | nil => exact .nil
  | cons hitem _ ih =>
      rw [List.flatMap_cons, List.flatMap_cons]
      refine List.rel_append ?_ ih
      obtain rfl | hitem := hitem
      · exact forall₂_paddedTo_refl _
      · exact AnalyzerEntry.paddedTo_outcomeLists hitem

/-- **The lists of the second document are those of the first with entries put in.** -/
theorem paddedTo_outcomeLists (h : Padded format t t') :
    List.Forall₂ OutcomeList.PaddedTo (outcomeLists format t) (outcomeLists format t') := by
  cases h with
  | list ht ht' hanalyzers =>
      rw [outcomeLists_of_list ht, outcomeLists_of_list ht']
      exact paddedTo_analyzersLists hanalyzers
  | record hlist hrecord =>
      rw [outcomeLists_of_not_list hlist, outcomeLists_of_not_list (hrecord.ne_list hlist)]
      refine paddedTo_listsUnder (fun _ _ _ _ hvary => ?_) hrecord.given
      exact paddedTo_listsUnder (fun _ _ _ _ hvary => paddedTo_analyzersLists hvary.2)
        hvary.2.given

end PreflightDocument

/-! ## The log -/

/-- The record is a warning, and says how many entries a list has lost. -/
structure LogRecord.WarnsOf (record : LogRecord) (l : OutcomeList) : Prop where
  level : record.level = .warn
  skipped : record.fields.lookup "skipped" = some (.int l.lost)

theorem LogRecord.warnsOf_droppedOutcomes (l : OutcomeList) :
    (droppedOutcomes l.lost).WarnsOf l :=
  ⟨rfl, rfl⟩

/-- The lists that have lost some of their entries. -/
def OutcomeList.losing (ls : List OutcomeList) : List OutcomeList := ls.filter fun l => 0 < l.lost

/-- The numbers that are reported are those of the lists that have lost entries. -/
theorem OutcomeList.filterMap_lost? (ls : List OutcomeList) :
    ls.filterMap lost? = (losing ls).map lost := by
  induction ls with
  | nil => rfl
  | cons l rest ih =>
      rw [losing] at ih ⊢
      by_cases h : l.lost = 0
      · simp [lost?, h, ih]
      · simp [lost?, h, Nat.pos_of_ne_zero h, ih]

/-- **Numbers that lists have lost are reported list by list**, each by one warning. -/
theorem OutcomeList.exists_warnsOf {ls : List OutcomeList} {dropped : List Nat}
    (h : (dropped : Multiset Nat) = ls.filterMap lost?) :
    ∃ reported, reported.Perm (losing ls) ∧
      List.Forall₂ LogRecord.WarnsOf (dropped.map .droppedOutcomes) reported := by
  have hperm : dropped.Perm ((losing ls).map lost) :=
    filterMap_lost? ls ▸ Multiset.coe_eq_coe.1 h
  have hmatch : List.Forall₂ (fun n l => n = lost l) ((losing ls).map lost) (losing ls) :=
    List.forall₂_map_left_iff.2 (List.forall₂_same.2 fun _ _ => rfl)
  obtain ⟨reported, hreported, hlosing⟩ := List.perm_comp_forall₂ hperm hmatch
  refine ⟨reported, hlosing, List.forall₂_map_left_iff.2 (hreported.imp fun n l hn => ?_)⟩
  exact hn ▸ LogRecord.warnsOf_droppedOutcomes l

/-- A list by itself is reported once if it has lost entries, and not at all otherwise. -/
theorem OutcomeList.warnsOf_decodeOutcomes {place : OutcomePlace} {ts : List Tree}
    (h : HasItems place.rules t ts) {outcomes : List Outcome}
    (hread : (decodeOutcomes place.rules t).result = .ok outcomes) :
    List.Forall₂ LogRecord.WarnsOf
      ((decodeOutcomes place.rules t).dropped.map .droppedOutcomes) (losing [⟨place, ts⟩]) := by
  have hlost := lost_of_decodeOutcomes (t := t) ⟨hread, rfl⟩
  rw [OutcomePlace.listOf, h.items_eq] at hlost
  obtain ⟨reported, hperm, hwarns⟩ := exists_warnsOf hlost
  have heq : reported = losing [⟨place, ts⟩] := by
    rw [losing, List.filter_singleton] at hperm ⊢
    cases h : decide (0 < lost ⟨place, ts⟩) with
    | true => exact List.perm_singleton.1 (by rwa [h] at hperm)
    | false => exact List.perm_nil.1 (by rwa [h] at hperm)
  exact heq ▸ hwarns

namespace PreflightDocument

/-- **Entries of lists of outcomes that name no verdict change nothing but the log.**  Put into
the lists of a document that is read, anywhere and however many, they leave what is read as it
is, and each is one more that its list has lost.  Each list that has lost entries is reported
once, by a warning with their number.  A list is read as those of its entries that are outcomes
by themselves, in order, and an entry of the wrong form in any list of a document makes the
document one that cannot be read. -/
theorem decode_padded (format : Format) (t : Tree) :
    (∀ t' d, Padded format t t' → (decode format t).result = .ok d →
      (decode format t').result = .ok d ∧
        List.Forall₂ (fun l l' : OutcomeList => l.PaddedTo l' ∧
          l'.lost + l.entries.length = l.lost + l'.entries.length)
          (outcomeLists format t) (outcomeLists format t')) ∧
    (∀ d, (decode format t).result = .ok d →
      ∃ reported, reported.Perm (OutcomeList.losing (outcomeLists format t)) ∧
        List.Forall₂ LogRecord.WarnsOf
          ((decode format t).dropped.map .droppedOutcomes) reported) ∧
    (∀ l ∈ outcomeLists format t, ∀ e ∈ l.entries, ¬l.place.Admits e →
      ∃ mismatch, (decode format t).result = .error mismatch) ∧
    (∀ (place : OutcomePlace) u ts, HasItems place.rules u ts → (∀ e ∈ ts, place.Admits e) →
      (decodeOutcomes place.rules u).result = .ok (ts.filterMap place.outcome?) ∧
        List.Forall₂ LogRecord.WarnsOf ((decodeOutcomes place.rules u).dropped.map .droppedOutcomes)
          (OutcomeList.losing [⟨place, ts⟩])) ∧
    ∀ (place : OutcomePlace) e o, place.outcome? e = some o ↔
      ∃ entry, (OutcomeEntry.decode place.rules e).result = .ok entry ∧ entry.Declares o := by
  have haccounts : ∀ d, (decode format t).result = .ok d →
      Accounts (decode format t).dropped (outcomeLists format t) :=
    fun d hd => shows_decode ⟨hd, rfl⟩
  refine ⟨fun t' d hpadded hd => ⟨ignores_decode hpadded hd, ?_⟩,
    fun d hd => OutcomeList.exists_warnsOf (haccounts d hd).lost, ?_, ?_,
    fun place e o => OutcomePlace.outcome?_eq_some_iff⟩
  · exact (paddedTo_outcomeLists hpadded).imp fun l l' h => ⟨h, h.lost_eq⟩
  · intro l hl e he hill
    cases hd : (decode format t).result with
    | error mismatch => exact ⟨mismatch, rfl⟩
    | ok d => exact absurd ((haccounts d hd).admits l hl e he) hill
  · intro place u ts hu hadmits
    have hread := decodeOutcomes_eq_kept hu fun e he => (hadmits e he).1
    exact ⟨hread, OutcomeList.warnsOf_decodeOutcomes hu hread⟩

/-- The document of one check, with a list of its own and one for a workload that is missing. -/
def checkTree (own install : List Tree) : Tree :=
  list [map (named [("nodeResources", map (named [("outcomes", list own),
    ("onInstall", map (named [("outcomes", list install)]))]))])]

/-- The entry of a list of outcomes that passes with a message. -/
def passing (message : String) : Tree :=
  map (named [("pass", map (named [("message", text message)]))])

/-- The document of one check is padded by padding its lists. -/
theorem padded_checkTree {own own' install install' : List Tree}
    (hown : (OutcomePlace.own .json).Padded own own')
    (hinstall : OutcomePlace.alternative.Padded install install') :
    Padded .json (checkTree own install) (checkTree own' install') := by
  have hcriteria : Criteria.Padded (map (named [("outcomes", list install)]))
      (map (named [("outcomes", list install')])) :=
    .map rfl rfl (.cons ⟨rfl, .inr ⟨"outcomes", rfl, by simp,
      install, install', .list rfl, .list rfl, hinstall⟩⟩ .nil)
  have hcheck : NodeCheck.Padded .json
      (map (named [("outcomes", list own),
        ("onInstall", map (named [("outcomes", list install)]))]))
      (map (named [("outcomes", list own'),
        ("onInstall", map (named [("outcomes", list install')]))])) :=
    .map rfl rfl (.cons ⟨rfl, .inr ⟨"outcomes", rfl, .inl ⟨by simp,
      own, own', .list rfl, .list rfl, hown⟩⟩⟩ (.cons ⟨rfl, .inr ⟨"onInstall", rfl,
        .inr ⟨by simp, hcriteria⟩⟩⟩ .nil))
  exact .list rfl rfl ⟨_, _, .list rfl, .list rfl, .cons (.inr (.map rfl rfl (.cons ⟨rfl,
    .inr ⟨"nodeResources", rfl, by simp, hcheck⟩⟩ .nil))) .nil⟩

/-- An entry of a list of outcomes that gives null for a verdict. -/
def nullFail : Tree := map (named [("fail", null)])

/-- An entry that gives null for a verdict may be put into any list. -/
theorem nullFail_namesNone (place : OutcomePlace) (h : place.rules = .json) :
    place.Admits nullFail ∧ place.NamesNone nullFail := by
  refine ⟨⟨⟨⟨none, none, none⟩, ?_⟩, fun _ => rfl⟩, ?_⟩
  · rw [h]
    exact toOption_eq_some_iff.1 (by decide +kernel)
  · rw [OutcomePlace.NamesNone, nullFail, given_map_named]
    simp

/-- Warnings say these numbers of lost entries, one after the other. -/
def WarnOf (records : List LogRecord) (lost : List Nat) : Prop :=
  List.Forall₂ (fun record (k : Nat) =>
    record.level = .warn ∧ record.fields.lookup "skipped" = some (.int k)) records lost

/-- Warnings of lists say the numbers of entries that these have lost. -/
theorem warnOf_map_lost {records : List LogRecord} {ls : List OutcomeList}
    (h : List.Forall₂ LogRecord.WarnsOf records ls) : WarnOf records (ls.map OutcomeList.lost) :=
  List.forall₂_map_right_iff.2 (h.imp fun _ _ h => ⟨h.level, h.skipped⟩)

/-- Two entries that are put into the list of a check, and one into that of its alternative, are
two warnings and the same document. -/
theorem decode_padded_install :
    (∃ d, (decode .json (checkTree [passing "ok"] [])).result = .ok d ∧
      (decode .json (checkTree [nullFail, passing "ok", nullFail] [nullFail])).result = .ok d) ∧
    (∃ lost : List Nat, lost.Perm [2, 1] ∧
      WarnOf ((decode .json (checkTree [nullFail, passing "ok", nullFail] [nullFail])).dropped.map
        .droppedOutcomes) lost) ∧
    (∃ mismatch, (decode .json (checkTree [text "fail"] [])).result = .error mismatch) ∧
    (decodeOutcomes .json (list [nullFail, passing "ok"])).result =
      .ok [⟨.pass, "", "ok", none⟩] ∧
    WarnOf ((decodeOutcomes .json (list [nullFail, passing "ok"])).dropped.map .droppedOutcomes)
      [1] := by
  obtain ⟨hown, hownNone⟩ := nullFail_namesNone (.own .json) rfl
  obtain ⟨hinstall, hinstallNone⟩ := nullFail_namesNone .alternative rfl
  refine ⟨?_, ?_, ?_, ?_⟩
  · have hpadded : Padded .json (checkTree [passing "ok"] [])
        (checkTree [nullFail, passing "ok", nullFail] [nullFail]) :=
      padded_checkTree (.insert hown hownNone (.keep (.insert hown hownNone .nil)))
        (.insert hinstall hinstallNone .nil)
    obtain ⟨d, hd⟩ : ∃ d, (decode .json (checkTree [passing "ok"] [])).result = .ok d :=
      ⟨_, toOption_eq_some_iff.1 (Option.eq_some_of_isSome (by decide +kernel))⟩
    exact ⟨d, hd, ((decode_padded .json _).1 _ d hpadded hd).1⟩
  · have hlosing : (OutcomeList.losing (outcomeLists .json
        (checkTree [nullFail, passing "ok", nullFail] [nullFail]))).map OutcomeList.lost =
          [2, 1] := by
      decide +kernel
    obtain ⟨reported, hperm, hwarns⟩ := (decode_padded .json
      (checkTree [nullFail, passing "ok", nullFail] [nullFail])).2.1 _
        (toOption_eq_some_iff.1 (Option.eq_some_of_isSome (by decide +kernel)))
    exact ⟨reported.map OutcomeList.lost, hlosing ▸ hperm.map _, warnOf_map_lost hwarns⟩
  · have hill : ¬(OutcomePlace.own .json).Admits (text "fail") := by
      intro h
      obtain ⟨⟨entry, hentry⟩, -⟩ := h
      contradiction
    exact (decode_padded .json _).2.2.1 ⟨.own .json, [text "fail"]⟩ List.mem_cons_self
      (text "fail") List.mem_cons_self hill
  · have hpassing : (OutcomePlace.own .json).Admits (passing "ok") :=
      ⟨⟨_, toOption_eq_some_iff.1 (Option.eq_some_of_isSome (by decide +kernel))⟩, fun _ => rfl⟩
    obtain ⟨hread, hwarns⟩ := (decode_padded .json null).2.2.2.1 (.own .json)
      (list [nullFail, passing "ok"]) [nullFail, passing "ok"] (.list rfl)
        (by simpa using ⟨hown, hpassing⟩)
    have hkept : [nullFail, passing "ok"].filterMap (OutcomePlace.own .json).outcome? =
        [⟨.pass, "", "ok", none⟩] := by
      decide +kernel
    have hlosing : (OutcomeList.losing [⟨.own .json, [nullFail, passing "ok"]⟩]).map
        OutcomeList.lost = [1] := by
      decide +kernel
    exact ⟨hkept ▸ hread, hlosing ▸ warnOf_map_lost hwarns⟩

end PreflightDocument
end NodeFit
