import NodeFit.Proofs.Document.Schema
import NodeFit.Proofs.Tree.Formats

/-!
# NodeFit.Proofs.Document.Formats

The two formats of documents agree.

A document that consists of texts, truth values, integers, lists and maps is read by the
rules of JSON as it is by those of YAML (`PreflightDocument.decode_json_of_yaml`).  Every
record of the schema is followed in this sense, from the bottom up.

One decoder follows another (`Tree.Follows`) when it reads what the other reads, with the same
number of dropped entries, from the counterpart of the tree.  Most of the proofs say of which
decoders a record is made; the rules for them are in `NodeFit.Proofs.Tree.Formats`.  Two places
need more than that: what a check leaves over is read by the rules of JSON in either format
(`Gating.decode_counterparts`), and the bodies of other analyzers are kept as JSON values
(`AnalyzerEntry.exists_decodeUnsupported`).
-/

namespace NodeFit

open Decoded (gives_iff gives_bind_iff)
open Dictionary (DistinctKeys)
open NodeFit.Tree

variable {format : Format} {t : Tree} {lost : Multiset Nat}

/-! ## Filters and outcomes -/

theorem Filter.follows_decodeSelector :
    Follows (decodeSelector format) (decodeSelector .json) :=
  follows_decodeRecord (.cons (follows_decodeTexts.field _ _) .nil) orderly_selectorFields

theorem Filter.follows_decode : Follows (decode format) (decode .json) := by
  have hbounds : List.Forall₂ RecordField.Follows (NodeProperty.all.map (boundField format))
      (NodeProperty.all.map (boundField .json)) := by
    rw [List.forall₂_map_left_iff, List.forall₂_map_right_iff, List.forall₂_same]
    exact fun p _ => follows_decodeText.option.field p.name (setBound p)
  exact follows_decodeRecord (.cons (follows_decodeSelector.option.field _ _) hbounds)
    orderly_fields

theorem OutcomeBody.follows_decode : Follows (decode format) (decode .json) :=
  follows_decodeRecord
    (.cons (follows_decodeText.field _ _) <| .cons (follows_decodeText.field _ _) <|
      .cons (follows_decodeText.option.field _ _) .nil)
    orderly_fields

theorem OutcomeEntry.follows_decode : Follows (decode format) (decode .json) :=
  have hbody := OutcomeBody.follows_decode.option
  follows_decodeRecord
    (.cons (hbody.field _ _) <| .cons (hbody.field _ _) <| .cons (hbody.field _ _) .nil)
    orderly_fields

theorem follows_decodeOutcomes : Follows (decodeOutcomes format) (decodeOutcomes .json) :=
  OutcomeEntry.follows_decode.list.bind keepOutcomes

/-! ## Checks -/

theorem Criteria.follows_decode : Follows (decode format) (decode .json) :=
  follows_decodeRecord
    (.cons (Filter.follows_decode.option.field _ _) <|
      .cons (follows_decodeOutcomes.field _ _) .nil)
    orderly_fields

theorem WorkloadRef.follows_decode : Follows (decode format) (decode .json) :=
  have hparts : Follows (decodeRecord format (fields format) (none, none))
      (decodeRecord .json (fields .json) (none, none)) :=
    follows_decodeRecord
      (.cons (follows_decodeText.field _ _) <| .cons (follows_decodeText.field _ _) .nil)
      orderly_fields
  hparts.bind ofParts

/-- What ties a check to a workload is read alike from counterparts of the entries. -/
theorem Gating.decode_counterparts {others others' : List (String × Tree)} {gating : Gating}
    (h : Counterparts others others') (hgives : (decode others).Gives lost gating) :
    (decode others').Gives lost gating := by
  have hcriteria : Follows (decodeOption (Criteria.decode .json))
      (decodeOption (Criteria.decode .json)) := Criteria.follows_decode.option
  have hfields : List.Forall₂ RecordField.Follows fields fields :=
    .cons (WorkloadRef.follows_decode.option.field _ _) <| .cons (hcriteria.field _ _) <|
      .cons (hcriteria.field _ _) .nil
  rw [decode_eq] at hgives ⊢
  exact h.decodeRecord hfields orderly_fields hgives

/-- A check is read alike in both formats, from its own fields and from what it leaves over. -/
theorem NodeCheck.follows_decode : Follows (decode format) (decode .json) := by
  intro t u lost check h hgives
  have hfields : List.Forall₂ RecordField.Follows (fields format) (fields .json) :=
    .cons (follows_decodeText.field _ _) <| .cons (Filter.follows_decode.option.field _ _) <|
      .cons (follows_decodeOutcomes.field _ _) .nil
  rw [decode_eq] at hgives ⊢
  obtain ⟨⟨known, others⟩, first, _, hknown, hrest, rfl⟩ := gives_bind_iff.1 hgives
  obtain ⟨gating, second, third, hgating, hcheck, rfl⟩ := gives_bind_iff.1 hrest
  obtain ⟨others', hothers, hknown'⟩ := exists_decodeOpenRecord hfields orderly_fields h hknown
  exact hknown'.bind ((Gating.decode_counterparts hothers hgating).bind hcheck)

/-! ## Documents -/

/-- Analyzers of other kinds are kept as the same dictionary. -/
theorem AnalyzerEntry.exists_decodeUnsupported {others others' : List (String × Tree)}
    {unsupported : List (String × Json)} (h : Counterparts others others')
    (hgives : (decodeUnsupported others).Gives lost unsupported) :
    ∃ unsupported', (decodeUnsupported others').Gives lost unsupported' ∧
      Dictionary.ofList unsupported = Dictionary.ofList unsupported' := by
  obtain ⟨rfl, hbodies⟩ := decodeUnsupported_gives_iff.1 hgives
  have hbody (t u : Tree) (j : Json) (h : Counterpart t u) (hj : t.toJson? = some j) :
      u.toJson? = some j := by
    obtain ⟨j', hj', rfl⟩ := h.json
    obtain rfl := Option.some.inj (hj.symm.trans hj')
    exact settled_of_toJson? hj
  obtain ⟨unsupported', hbodies', hsame⟩ := h.exists_pairs hbody hbodies
  exact ⟨unsupported', decodeUnsupported_gives_iff.2 ⟨rfl, hbodies'⟩, hsame⟩

/-- An entry of a list of analyzers is read alike in both formats. -/
theorem AnalyzerEntry.follows_decode : Follows (decode format) (decode .json) := by
  intro t u lost entry h hgives
  have hfields : List.Forall₂ RecordField.Follows (fields format) (fields .json) :=
    .cons (NodeCheck.follows_decode.option.field _ _) .nil
  rw [decode_eq] at hgives ⊢
  obtain ⟨⟨known, others⟩, first, _, hknown, hrest, rfl⟩ := gives_bind_iff.1 hgives
  obtain ⟨unsupported, second, third, hunsupported, hentry, rfl⟩ := gives_bind_iff.1 hrest
  obtain ⟨others', hothers, hknown'⟩ := exists_decodeOpenRecord hfields orderly_fields h hknown
  obtain ⟨unsupported', hunsupported', hsame⟩ := exists_decodeUnsupported hothers hunsupported
  rw [hsame] at hentry
  exact hknown'.bind (hunsupported'.bind hentry)

namespace PreflightDocument

theorem follows_decodeAnalyzers : Follows (decodeAnalyzers format) (decodeAnalyzers .json) :=
  AnalyzerEntry.follows_decode.list

/-- A document that is a record is read alike in both formats. -/
theorem follows_decodeRecord : Follows (decodeRecord format) (decodeRecord .json) :=
  have hmetadata : Follows (Tree.decodeRecord format (metadataFields format) none)
      (Tree.decodeRecord .json (metadataFields .json) none) :=
    Tree.follows_decodeRecord (.cons (follows_decodeText.option.field _ _) .nil)
      orderly_metadataFields
  have hbody : Follows (Tree.decodeRecord format (bodyFields format) [])
      (Tree.decodeRecord .json (bodyFields .json) []) :=
    Tree.follows_decodeRecord (.cons (follows_decodeAnalyzers.field _ _) .nil) orderly_bodyFields
  Tree.follows_decodeRecord
    (.cons (follows_decodeText.option.field _ _) <|
      .cons (follows_decodeText.option.field _ _) <| .cons (hmetadata.field _ _) <|
        .cons (hbody.field _ _) .nil)
    orderly_fields

/-- A document is read alike in both formats, be it a list or a record. -/
theorem follows_decode : Follows (decode format) (decode .json) := by
  intro t u lost d h hgives
  cases h.alike with
  | list _ => cases format <;> exact follows_decodeAnalyzers.map ofAnalyzers h hgives
  | bool _ | int _ | text _ | map _ => cases format <;> exact follows_decodeRecord h hgives

/-- **The formats agree.**  What the rules of YAML read from a document of texts, truth
values, integers, lists and maps, the rules of JSON read from the JSON value of the
document.  As many entries are dropped from as many lists of outcomes, and since the
entries of such a list are read alike one by one, they are the same entries. -/
theorem decode_json_of_yaml {d : PreflightDocument} {dropped : List Nat} (ht : t.Simple)
    (h : decode .yaml t = ⟨dropped, .ok d⟩) :
    (∃ j dropped', t.toJson? = some j ∧ decode .json (.ofJson j) = ⟨dropped', .ok d⟩ ∧
      dropped.Perm dropped') ∧
    ∀ outcomes entries, outcomes.Simple →
      (decodeList .yaml (OutcomeEntry.decode .yaml) outcomes).result = .ok entries →
      ∃ j, outcomes.toJson? = some j ∧
        (decodeList .json (OutcomeEntry.decode .json) (.ofJson j)).result = .ok entries := by
  refine ⟨?_, fun outcomes entries houtcomes hentries => ?_⟩
  · obtain ⟨j, hj⟩ := ht.exists_toJson?
    have hgives : (decode .yaml t).Gives dropped d := gives_iff.2 ⟨dropped, .rfl, h⟩
    obtain ⟨dropped', hperm, hdecode⟩ := gives_iff.1 (follows_decode ⟨ht, j, hj, rfl⟩ hgives)
    exact ⟨j, dropped', hj, hdecode, hperm⟩
  · obtain ⟨j, hj⟩ := houtcomes.exists_toJson?
    have hgives := OutcomeEntry.follows_decode.list ⟨houtcomes, j, hj, rfl⟩ ⟨hentries, rfl⟩
    exact ⟨j, hj, hgives.result⟩

/-- A list of one entry: a check with an outcome that has no verdict and a filter, and an
analyzer of another kind. -/
def mixedTree : Tree :=
  let outcomes := .list [.map (named []), .map (named [("pass", .map (named []))])]
  let filters := .map (named [("cpuCapacity", .text "4")])
  let check := .map (named [("outcomes", outcomes), ("filters", filters)])
  .list [.map (named [("nodeResources", check), ("clusterVersion", .int 1)])]

theorem simple_mixedTree : mixedTree.Simple := by
  have hempty : (Tree.map (named [])).Simple := .map .nil nofun
  have hpass : (Tree.map (named [("pass", .map (named []))])).Simple :=
    .map (List.pairwise_singleton _ _) (List.forall_mem_singleton.2 hempty)
  have hfilters : (Tree.map (named [("cpuCapacity", .text "4")])).Simple :=
    .map (List.pairwise_singleton _ _) (List.forall_mem_singleton.2 (.text "4"))
  have hcheck : (Tree.map (named
      [("outcomes", .list [.map (named []), .map (named [("pass", .map (named []))])]),
        ("filters", .map (named [("cpuCapacity", .text "4")]))])).Simple := by
    refine .map (by simp [DistinctKeys]) (List.forall_mem_cons.2 ⟨.list ?_, ?_⟩)
    · exact List.forall_mem_cons.2 ⟨hempty, List.forall_mem_singleton.2 hpass⟩
    · exact List.forall_mem_singleton.2 hfilters
  refine .list (List.forall_mem_singleton.2 (.map (by simp [DistinctKeys]) ?_))
  exact List.forall_mem_cons.2
    ⟨hcheck, List.forall_mem_singleton.2 (.int (by decide) (by decide))⟩

/-- What the entry means. -/
def mixedDocument : PreflightDocument :=
  let filter := Filter.empty.withBound ⟨.cpu, .capacity⟩ "4"
  .ofAnalyzers
    [⟨some ⟨"", ⟨some filter, [⟨.pass, ⟨"", "", none⟩⟩]⟩, .none⟩,
      .ofList [("clusterVersion", .int 1)]⟩]

/-- A check with an entry that is dropped, beside an analyzer of another kind, is read alike in
both formats. -/
theorem decode_json_of_yaml_mixed :
    mixedTree.Simple ∧ decode .yaml mixedTree = ⟨[1], .ok mixedDocument⟩ ∧
      ∃ j dropped', mixedTree.toJson? = some j ∧
        decode .json (.ofJson j) = ⟨dropped', .ok mixedDocument⟩ ∧ [1].Perm dropped' := by
  have hdecode : decode .yaml mixedTree = ⟨[1], .ok mixedDocument⟩ := rfl
  exact ⟨simple_mixedTree, hdecode, (decode_json_of_yaml simple_mixedTree hdecode).1⟩

end PreflightDocument
end NodeFit
