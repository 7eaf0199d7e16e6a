import NodeFit.Document.Encoder
import NodeFit.Document.Reader
import NodeFit.Proofs.Document.Schema
import NodeFit.Proofs.Tree.Filled
import NodeFit.Proofs.Tree.Invariant

/-!
# NodeFit.Proofs.Document.RoundTrip

Documents survive being written and read again.

Every part of a document is read back from the JSON value it is written as, and no entry
of a list of outcomes is dropped on the way.  Only the bodies of analyzers of other kinds
are not written by a schema: they must be settled, and their kinds must not be the one
that is evaluated (`PreflightDocument.Settled`), which holds of every document that was
read (`PreflightDocument.settled_of_decode`).

A record is written as the fields that its decoder takes, some of which are left out when they
have their usual value.  `Fills` says that such fields lead from the start of a record to the
value; each record of the schema has one lemma of this form, and reading it back follows.  The
filter is the one record whose fields come from a table of properties
(`Filter.exists_fills_bounds`).
-/

namespace NodeFit

open Decoded (gives_bind_iff gives_pure_iff gives_map_iff gives_zero_iff)
open Json (optional)
open NodeFit.Tree
open NodeFit.Tree.RecordField (keeps_of)

variable {format : Format}

/-! ## Texts and objects -/

theorem decodeText_text (s : String) : ((Json.text s).tree.decodeText format).Gives 0 s :=
  decodeText_gives_iff.2 ⟨rfl, by cases format <;> rfl⟩

theorem text_ne_null (s : String) : (Json.text s).tree ≠ null := Tree.noConfusion

theorem object_ne_null (xs : List (String × Json)) : (Json.object xs).tree ≠ null :=
  Tree.noConfusion

/-- A text field that may be left out. -/
theorem fills_optionalText {σ : Type} {name : String} {value : Option String}
    {set : Option String → σ → σ} {r : σ} (hnone : set none r = r) :
    Fills [.of name (decodeOption (decodeText format)) set] (trees (optional name .text value)) r
      (set value r) :=
  fills_optional (fun s _ => decodeText_text s) text_ne_null hnone

/-! ## Filters -/

namespace Filter

theorem decodeSelector_toJson (s : Selector) :
    (decodeSelector format (Json.object [("matchLabel", .ofTexts s.matchLabel)]).tree).Gives 0 s :=
  (fills_required (decodeTexts_ofTexts s.matchLabel)).decodeRecord_object orderly_selectorFields

/-- A filter without a bound is not changed by setting none. -/
theorem setBound_none {p : NodeProperty} {filter : Filter} (h : filter.bound? p = none) :
    filter.setBound p none = filter := by
  refine ext_bound? rfl fun q => ?_
  rw [bound?_setBound]
  split
  · next hq => rw [hq, h]
  · rfl

theorem bound?_empty (selector : Option Selector) (p : NodeProperty) :
    ({ empty with selector } : Filter).bound? p = none := by
  obtain ⟨r, s⟩ := p
  cases r <;> cases s <;> rfl

/-- The bounds of some properties are filled in. -/
theorem exists_fills_bounds (format : Format) (filter : Filter) {ps : List NodeProperty}
    (hps : ps.Nodup) {r : Filter} (hr : ∀ p ∈ ps, r.bound? p = none) :
    ∃ r', Fills (ps.map (boundField format))
        (trees (ps.flatMap fun p => optional p.name .text (filter.bound? p))) r r' ∧
      r'.selector = r.selector ∧
      ∀ q, r'.bound? q = if q ∈ ps then filter.bound? q else r.bound? q := by
  induction ps generalizing r with
  | nil => exact ⟨r, .nil, rfl, fun q => (if_neg List.not_mem_nil).symm⟩
  | cons p ps ih =>
      obtain ⟨hp, hps⟩ := List.nodup_cons.1 hps
      obtain ⟨hrp, hrps⟩ := List.forall_mem_cons.1 hr
      have hnext : ∀ q ∈ ps, (r.setBound p (filter.bound? p)).bound? q = none := by
        intro q hq
        have hne : q ≠ p := fun h => hp (h ▸ hq)
        rw [bound?_setBound, if_neg hne, hrps q hq]
      obtain ⟨r', hfills, hselector, hbound⟩ := ih hps hnext
      refine ⟨r', ?_, hselector, fun q => ?_⟩
      · rw [List.flatMap_cons, trees_append]
        exact (fills_optionalText (setBound_none hrp)).append hfills
      · rw [hbound, bound?_setBound]
        by_cases hq : q = p
        · subst hq
          simp [hp]
        · simp [hq]

/-- A filter is read back from the value it is written as. -/
theorem decode_toJson (filter : Filter) : (decode format filter.toJson.tree).Gives 0 filter := by
  have hselector : Fills
      [.of "selector" (decodeOption (decodeSelector format)) fun s f => { f with selector := s }]
      (trees (optional "selector"
        (fun s : Selector => .object [("matchLabel", .ofTexts s.matchLabel)]) filter.selector))
      Filter.empty { Filter.empty with selector := filter.selector } :=
    fills_optional (fun s _ => decodeSelector_toJson s) (fun _ => object_ne_null _) rfl
  have hnodup : NodeProperty.all.Nodup := by decide
  obtain ⟨r', hbounds, hsame, hbound⟩ :=
    exists_fills_bounds format filter hnodup fun p _ => bound?_empty filter.selector p
  have hr' : r' = filter := by
    refine ext_bound? hsame fun p => ?_
    rw [hbound, if_pos p.mem_all]
  subst hr'
  rw [toJson, decode_eq]
  refine Fills.decodeRecord_object ?_ orderly_fields
  rw [trees_append]
  exact hselector.append hbounds

end Filter

/-! ## Outcomes -/

theorem OutcomeBody.decode_toJson (body : OutcomeBody) :
    (decode format body.toJson.tree).Gives 0 body := by
  have hfills : Fills (fields format)
      (trees ([("when", .text body.condition), ("message", .text body.message)]
        ++ optional "uri" .text body.uri)) ⟨"", "", none⟩ body := by
    rw [trees_append]
    exact ((fills_required (decodeText_text _)).append (fills_required (decodeText_text _))).append
      (fills_optionalText rfl)
  rw [decode_eq]
  exact hfills.decodeRecord_object orderly_fields

/-- The entry that an outcome is written as. -/
def Outcome.entry : Outcome → OutcomeEntry
  | ⟨.fail, body⟩ => ⟨some body, none, none⟩
  | ⟨.warn, body⟩ => ⟨none, some body, none⟩
  | ⟨.pass, body⟩ => ⟨none, none, some body⟩

/-- The entry that an outcome is written as declares the outcome. -/
theorem Outcome.outcome?_entry (o : Outcome) : o.entry.outcome? = some o := by
  obtain ⟨verdict, body⟩ := o
  cases verdict <;> rfl

/-- An outcome is read back as the entry it is written as. -/
theorem Outcome.decode_toJson (o : Outcome) :
    (OutcomeEntry.decode format o.toJson.tree).Gives 0 o.entry := by
  obtain ⟨verdict, body⟩ := o
  have hbody : (decodeOption (OutcomeBody.decode format) body.toJson.tree).Gives 0 (some body) := by
    have hnull : body.toJson.tree ≠ null := object_ne_null _
    rw [decodeOption_of_ne_null hnull]
    exact body.decode_toJson.map some
  have hfills : Fills (OutcomeEntry.fields format) (trees [(verdict.label, body.toJson)])
      ⟨none, none, none⟩ (Outcome.entry ⟨verdict, body⟩) := by
    cases verdict with
    | fail => exact .give (hbody.map _) (.skip (.skip .nil))
    | warn => exact .skip (.give (hbody.map _) (.skip .nil))
    | pass => exact .skip (.skip (.give (hbody.map _) .nil))
  rw [OutcomeEntry.decode_eq]
  exact hfills.decodeRecord_object OutcomeEntry.orderly_fields

/-- Entries that were written for outcomes are all kept. -/
theorem keepOutcomes_entry (outcomes : List Outcome) :
    keepOutcomes (outcomes.map Outcome.entry) = pure outcomes := by
  have hkept : (outcomes.map Outcome.entry).filterMap OutcomeEntry.outcome? = outcomes := by
    have hsome : OutcomeEntry.outcome? ∘ Outcome.entry = some := funext Outcome.outcome?_entry
    rw [List.filterMap_map, hsome, List.filterMap_some]
  rw [keepOutcomes, hkept, List.length_map, Nat.sub_self]
  rfl

/-- A list of outcomes is read back whole, with no entry dropped. -/
theorem decodeOutcomes_toJson (outcomes : List Outcome) :
    (decodeOutcomes format (outcomesToJson outcomes).tree).Gives 0 outcomes := by
  have hentries : (decodeList format (OutcomeEntry.decode format)
      (outcomesToJson outcomes).tree).Gives 0 (outcomes.map Outcome.entry) :=
    decodeList_map fun o _ => o.decode_toJson
  exact hentries.bind (keepOutcomes_entry outcomes ▸ Decoded.gives_pure outcomes)

/-! ## Checks -/

/-- The written fields of criteria lead to the criteria. -/
theorem fills_criteria (c : Criteria) :
    Fills (Criteria.fields format) (trees c.toFields) ⟨none, []⟩ c := by
  rw [Criteria.toFields, trees_append]
  exact (fills_optional (fun f _ => f.decode_toJson) (fun _ => object_ne_null _) rfl).append
    (fills_required (decodeOutcomes_toJson c.outcomes))

theorem Criteria.decode_toFields (c : Criteria) :
    (decode format (Json.object c.toFields).tree).Gives 0 c := by
  rw [decode_eq]
  exact (fills_criteria c).decodeRecord_object orderly_fields

theorem WorkloadRef.decode_toJson (w : WorkloadRef) :
    (decode format w.toJson.tree).Gives 0 w := by
  have hfills : Fills (fields format) (trees [("namespace", .text w.ns), ("name", .text w.name)])
      (none, none) (some w.ns, some w.name) :=
    (fills_required (decodeText_text _)).append (fills_required (decodeText_text _))
  have hparts : ofParts (some w.ns, some w.name) = pure w := rfl
  rw [decode_eq]
  exact (hfills.decodeRecord_object orderly_fields).bind (hparts ▸ Decoded.gives_pure w)

/-- The written fields that tie a check to a workload lead to the gating. -/
theorem fills_gating (g : Gating) : Fills Gating.fields (trees g.toFields) .none g := by
  rw [Gating.toFields, trees_append, trees_append]
  exact ((fills_optional (fun w _ => w.decode_toJson) (fun _ => object_ne_null _) rfl).append
    (fills_optional (fun c _ => c.decode_toFields) (fun _ => object_ne_null _) rfl)).append
    (fills_optional (fun c _ => c.decode_toFields) (fun _ => object_ne_null _) rfl)

/-- What is left of a check besides its own fields ties it to a workload. -/
theorem Gating.not_mem_names {g : Gating} {e : String × Json} (he : e ∈ g.toFields) :
    e.1 ∉ (NodeCheck.fields format).map RecordField.name := by
  have htree : (e.1, e.2.tree) ∈ trees g.toFields := List.mem_map.2 ⟨e, he, rfl⟩
  have hname : e.1 ∈ fields.map RecordField.name :=
    (fills_gating g).keys_sublist.mem (List.mem_map.2 ⟨_, htree, rfl⟩)
  have hdisjoint : ∀ name ∈ fields.map RecordField.name,
      name ∉ (NodeCheck.fields .json).map RecordField.name := by decide
  cases format <;> exact hdisjoint e.1 hname

/-- The name of a check may be left out when it is empty. -/
theorem fills_checkName (s : String) (c : NodeCheck) (h : c.name = "") :
    Fills [.of "checkName" (decodeText format) fun s c => { c with name := s }]
      (trees (filled "checkName" s)) c { c with name := s } := by
  rw [filled]
  split
  · next hs =>
    obtain rfl : s = "" := by simpa using hs
    have hc : { c with name := "" } = c := by rw [← h]
    rw [hc]
    exact .skip .nil
  · exact fills_required (decodeText_text s)

/-- A check is read back, from its own fields and from those that it leaves over. -/
theorem NodeCheck.decode_toJson (check : NodeCheck) :
    (decode format check.toJson.tree).Gives 0 check := by
  have hknown : Fills (fields format) (trees (filled "checkName" check.name ++ check.own.toFields))
      start { check with gating := .none } := by
    rw [Criteria.toFields, trees_append, trees_append]
    exact (fills_checkName check.name start rfl).append <|
      (fills_optional (fun f _ => f.decode_toJson) (fun _ => object_ne_null _) rfl).append
        (fills_required (decodeOutcomes_toJson check.own.outcomes))
  have hothers := (fills_gating check.gating).distinctKeys Gating.orderly_fields
  obtain ⟨others, hperm, hopen⟩ := hknown.exists_decodeOpenRecord orderly_fields
    (distinctKeys_trees_iff.1 hothers) fun e he => Gating.not_mem_names he
  have hgating : (Gating.decode others).Gives 0 check.gating := by
    rw [Gating.decode_eq]
    exact (fills_gating check.gating).decodeRecord_named Gating.orderly_fields hperm
  rw [decode_eq]
  exact hopen.bind_pure (hgating.bind_pure (Decoded.gives_pure check))

/-! ## Documents -/

/-- The analyzers of other kinds have bodies that are settled, and do not go by the name of
the kind that is evaluated. -/
def AnalyzerEntry.Settled (entry : AnalyzerEntry) : Prop :=
  ∀ e ∈ entry.unsupported.toList, e.1 ≠ "nodeResources" ∧ e.2.Settled

/-- An entry of a list of analyzers is read back if its other analyzers are settled. -/
theorem AnalyzerEntry.decode_toJson {entry : AnalyzerEntry} (h : entry.Settled) :
    (decode format entry.toJson.tree).Gives 0 entry := by
  have hknown : Fills (fields format)
      (trees (optional "nodeResources" NodeCheck.toJson entry.nodeResources))
      none entry.nodeResources :=
    fills_optional (fun check _ => check.decode_toJson) (fun _ => object_ne_null _) rfl
  obtain ⟨others, hperm, hopen⟩ := hknown.exists_decodeOpenRecord orderly_fields
    entry.unsupported.distinct fun e he => by simpa [fields] using (h e he).1
  have hbodies : List.Forall₂ (fun e p => e.1 = p.1 ∧ e.2.toJson? = some p.2)
      (trees entry.unsupported.toList) entry.unsupported.toList := by
    rw [trees, List.forall₂_map_left_iff, List.forall₂_same]
    intro e he
    have hsettled := (h e he).2
    refine ⟨rfl, ?_⟩
    rw [Json.tree, hsettled.arranged_eq]
    exact hsettled
  obtain ⟨unsupported, hunsupported, hsame⟩ :=
    Dictionary.exists_forall₂_of_perm hperm entry.unsupported.distinct hbodies
  rw [Dictionary.ofList_toList] at hsame
  have hrest : (withOthers (entry.nodeResources, others)).Gives 0 entry := by
    have hpure : (pure ⟨entry.nodeResources, .ofList unsupported⟩ : Decoded AnalyzerEntry).Gives 0
        entry := by
      rw [← hsame]
      exact Decoded.gives_pure entry
    exact (decodeUnsupported_gives_iff.2 ⟨rfl, hunsupported⟩).bind_pure hpure
  rw [decode_eq]
  exact hopen.bind_pure hrest

namespace PreflightDocument

/-- All entries of the document are settled. -/
def Settled (d : PreflightDocument) : Prop := ∀ entry ∈ d.analyzers, entry.Settled

theorem decode_toJson {d : PreflightDocument} (h : d.Settled) :
    (decode format d.toJson.tree).Gives 0 d := by
  have hmetadata : (Tree.decodeRecord format (metadataFields format) none
      (Json.object (optional "name" .text d.name)).tree).Gives 0 d.name :=
    (fills_optionalText rfl).decodeRecord_object orderly_metadataFields
  have hanalyzers : (decodeAnalyzers format
      (Json.list (d.analyzers.map AnalyzerEntry.toJson)).tree).Gives 0 (d.analyzers.map id) :=
    decodeList_map fun entry hentry => AnalyzerEntry.decode_toJson (h entry hentry)
  rw [List.map_id] at hanalyzers
  have hbody : (Tree.decodeRecord format (bodyFields format) []
      (Json.object [("analyzers", .list (d.analyzers.map AnalyzerEntry.toJson))]).tree).Gives 0
      d.analyzers :=
    (fills_required hanalyzers).decodeRecord_object orderly_bodyFields
  have hfills : Fills (fields format)
      (trees (optional "apiVersion" .text d.apiVersion ++ optional "kind" .text d.kind
        ++ [("metadata", .object (optional "name" .text d.name)),
          ("spec", .object [("analyzers", .list (d.analyzers.map AnalyzerEntry.toJson))])]))
      (ofAnalyzers []) d := by
    rw [trees_append, trees_append]
    exact ((fills_optionalText rfl).append (fills_optionalText rfl)).append
      ((fills_required hmetadata).append (fills_required hbody))
  have hrecord : (decodeRecord format d.toJson.tree).Gives 0 d :=
    hfills.decodeRecord_object orderly_fields
  cases format <;> exact hrecord

/-! ## Documents that were read -/

end PreflightDocument

/-- An entry that was read has other analyzers of other kinds only, with settled bodies. -/
theorem AnalyzerEntry.settled_of_decode {t : Tree} {lost : Multiset Nat} {entry : AnalyzerEntry}
    (h : (decode format t).Gives lost entry) : entry.Settled := by
  rw [decode_eq] at h
  obtain ⟨⟨known, others⟩, _, _, hopen, hrest, -⟩ := gives_bind_iff.1 h
  obtain ⟨unsupported, _, _, hunsupported, hentry, -⟩ := gives_bind_iff.1 hrest
  obtain ⟨-, rfl⟩ := gives_pure_iff.1 hentry
  obtain ⟨-, hbodies⟩ := decodeUnsupported_gives_iff.1 hunsupported
  intro e he
  obtain ⟨other, hother, hname, hbody⟩ :=
    Dictionary.exists_mem_of_forall₂ hbodies (Dictionary.mem_of_mem_ofList he)
  have hstranger := fieldOf?_eq_none_iff.1 (fieldOf?_of_decodeOpenRecord hopen hother)
  refine ⟨?_, settled_of_toJson? hbody⟩
  rw [hname] at hstranger
  simpa [fields] using hstranger

namespace PreflightDocument

/-- Every entry of a list of analyzers that was read is settled. -/
theorem settled_of_decodeAnalyzers {t : Tree} {lost : Multiset Nat} {analyzers : List AnalyzerEntry}
    (h : (decodeAnalyzers format t).Gives lost analyzers) : ∀ entry ∈ analyzers, entry.Settled := by
  intro entry hentry
  obtain ⟨item, first, hitem⟩ := exists_of_decodeList h hentry
  exact AnalyzerEntry.settled_of_decode hitem

theorem settled_of_decodeBody {t : Tree} {lost : Multiset Nat} {analyzers : List AnalyzerEntry}
    (h : (Tree.decodeRecord format (bodyFields format) [] t).Gives lost analyzers) :
    ∀ entry ∈ analyzers, entry.Settled := by
  have hkeeps : ∀ f ∈ bodyFields format,
      f.Keeps fun analyzers => ∀ entry ∈ analyzers, entry.Settled :=
    List.forall_mem_singleton.2 (keeps_of fun _ _ _ h _ _ => settled_of_decodeAnalyzers h)
  exact decodeRecord_invariant hkeeps (List.forall_mem_nil _) h

theorem settled_of_decodeRecord {t : Tree} {lost : Multiset Nat} {d : PreflightDocument}
    (h : (decodeRecord format t).Gives lost d) : d.Settled := by
  have hkeeps : ∀ f ∈ fields format, f.Keeps Settled := by
    simp only [fields, List.forall_mem_cons]
    exact ⟨keeps_of fun _ _ _ _ _ hd => hd, keeps_of fun _ _ _ _ _ hd => hd,
      keeps_of fun _ _ _ _ _ hd => hd, keeps_of fun _ _ _ h _ _ => settled_of_decodeBody h,
      List.forall_mem_nil _⟩
  have hstart : (ofAnalyzers []).Settled := List.forall_mem_nil _
  rw [decodeRecord_eq] at h
  exact decodeRecord_invariant hkeeps hstart h

/-- **A document that was read is settled.** -/
theorem settled_of_decode {t : Tree} {lost : Multiset Nat} {d : PreflightDocument}
    (h : (decode format t).Gives lost d) : d.Settled := by
  unfold decode at h
  split at h
  · obtain ⟨analyzers, hanalyzers, rfl⟩ := gives_map_iff.1 h
    exact settled_of_decodeAnalyzers hanalyzers
  · exact settled_of_decodeRecord h

/-- **Documents survive being written.**  The JSON value that a document is written as, with
the fields of every object in ascending order, is read as the same document, and no outcome
is dropped. -/
theorem decode_toJson_of_ofText {s : String} {d : PreflightDocument}
    (h : (ofText format s).result = .ok d) :
    decode .json (.ofJson d.toJson.arranged) = ⟨[], .ok d⟩ := by
  have hgives : (ofText format s).Gives (ofText format s).dropped d := ⟨h, rfl⟩
  obtain ⟨t, _, _, -, hdecode, -⟩ := gives_bind_iff.1 hgives
  exact gives_zero_iff.1 (decode_toJson (settled_of_decode hdecode))

/-- A check that depends on a deployment, beside an analyzer of another kind.  It has an empty
bound and an empty selector, and one of its entries names no verdict. -/
def lossyText : String :=
  "[\x7b\"ceph\":[],\"nodeResources\":\x7b\"filters\":\x7b\"cpuCapacity\":\"\",\"selector\":\x7b\x7d\x7d,"
    ++ "\"outcomes\":[\x7b\"fail\":\x7b\x7d\x7d,\x7b\x7d],"
    ++ "\"deployment\":\x7b\"namespace\":\"a\",\"name\":\"b\"\x7d,"
    ++ "\"onUpdate\":\x7b\"outcomes\":[\x7b\"pass\":\x7b\x7d\x7d]\x7d\x7d\x7d]"

/-- The check that is read of it. -/
def keptCheck : NodeCheck where
  name := ""
  own :=
    ⟨some ({ Filter.empty with selector := some ⟨.empty⟩ }.withBound ⟨.cpu, .capacity⟩ ""),
      [⟨.fail, ⟨"", "", none⟩⟩]⟩
  gating := ⟨some ⟨"a", "b"⟩, none, some ⟨none, [⟨.pass, ⟨"", "", none⟩⟩]⟩⟩

/-- The checks of a document, each with the kinds of the analyzers beside it. -/
def outline (d : PreflightDocument) : List (Option NodeCheck × List String) :=
  d.analyzers.map fun entry => (entry.nodeResources, entry.unsupported.toList.map Prod.fst)

/-- A document with a lost entry, a filter and gating is read back whole from its value, beside an
analyzer of another kind. -/
theorem decode_toJson_lossyText :
    (ofText .json lossyText).dropped = [1] ∧
    ∃ d, (ofText .json lossyText).result = .ok d ∧ d.outline = [(some keptCheck, ["ceph"])] ∧
      decode .json (.ofJson d.toJson.arranged) = ⟨[], .ok d⟩ := by
  have hread : (ofText .json lossyText).dropped = [1] ∧
      (ofText .json lossyText).result.toOption.map outline =
        some [(some keptCheck, ["ceph"])] := by
    decide +kernel
  obtain ⟨hdropped, houtline⟩ := hread
  obtain ⟨d, hd, houtline⟩ := Option.map_eq_some_iff.1 houtline
  have hresult := toOption_eq_some_iff.1 hd
  exact ⟨hdropped, d, hresult, houtline, decode_toJson_of_ofText hresult⟩

end PreflightDocument
end NodeFit
