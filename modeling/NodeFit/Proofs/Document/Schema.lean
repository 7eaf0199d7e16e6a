import Mathlib.Data.List.Forall2
import NodeFit.Document.Decoder
import NodeFit.Proofs.Tree.Record

/-!
# NodeFit.Proofs.Document.Schema

The records of preflight documents, as lists of fields.

The fields of every record have distinct names and set different parts of it (`Orderly`),
so that their order in a document does not matter.

A decoder is shown to be the one of a list of fields (`decode_eq`), and the list to be orderly
(`orderly_fields`); what later modules say of records they say of such lists.  Two records
are open: a check hands the fields that it does not know on to what ties it to a workload, and
an entry of a list of analyzers keeps them as analyzers of other kinds.
-/

namespace NodeFit

open Decoded (gives_cons_iff gives_require_iff)
open NodeFit.Tree
open NodeFit.Tree.RecordField (commutes_of)

variable {format : Format}

/-! ## Filters -/

namespace Filter

/-- The fields of a selector. -/
def selectorFields (format : Format) : List (RecordField Selector) :=
  [.of "matchLabel" (decodeTexts format) fun labels _ => ⟨labels⟩]

theorem orderly_selectorFields : Orderly (selectorFields format) := orderly_singleton _

/-- The filter with the bound of one property put in, or left out. -/
def setBound (p : NodeProperty) (bound : Option String) (filter : Filter) : Filter :=
  { filter with
    bounds := filter.bounds.set p.resource ((filter.bounds.get p.resource).set p.side bound) }

/-- Setting the bound of one property leaves those of the others. -/
theorem bound?_setBound (p q : NodeProperty) (bound : Option String) (filter : Filter) :
    (filter.setBound p bound).bound? q = if q = p then bound else filter.bound? q := by
  obtain ⟨r, s⟩ := p
  obtain ⟨r', s'⟩ := q
  cases r <;> cases r' <;> cases s <;> cases s' <;> rfl

/-- A filter is its selector and its bounds. -/
theorem ext_bound? {f g : Filter} (hselector : f.selector = g.selector)
    (hbound : ∀ p, f.bound? p = g.bound? p) : f = g := by
  obtain ⟨s, ⟨⟨c₁, c₂⟩, ⟨m₁, m₂⟩, ⟨p₁, p₂⟩, ⟨e₁, e₂⟩⟩⟩ := f
  obtain ⟨s', ⟨⟨c₁', c₂'⟩, ⟨m₁', m₂'⟩, ⟨p₁', p₂'⟩, ⟨e₁', e₂'⟩⟩⟩ := g
  obtain rfl : s = s' := hselector
  obtain rfl : c₁ = c₁' := hbound ⟨.cpu, .capacity⟩
  obtain rfl : c₂ = c₂' := hbound ⟨.cpu, .allocatable⟩
  obtain rfl : m₁ = m₁' := hbound ⟨.memory, .capacity⟩
  obtain rfl : m₂ = m₂' := hbound ⟨.memory, .allocatable⟩
  obtain rfl : p₁ = p₁' := hbound ⟨.pods, .capacity⟩
  obtain rfl : p₂ = p₂' := hbound ⟨.pods, .allocatable⟩
  obtain rfl : e₁ = e₁' := hbound ⟨.ephemeralStorage, .capacity⟩
  obtain rfl : e₂ = e₂' := hbound ⟨.ephemeralStorage, .allocatable⟩
  rfl

/-- The bounds of different properties are set in any order. -/
theorem setBound_comm {p q : NodeProperty} (hne : p ≠ q) (a b : Option String) (filter : Filter) :
    (filter.setBound q b).setBound p a = (filter.setBound p a).setBound q b := by
  refine ext_bound? rfl fun r => ?_
  simp only [bound?_setBound]
  by_cases hp : r = p
  · rw [if_pos hp, if_neg (hp ▸ hne), if_pos hp]
  · rw [if_neg hp, if_neg hp]

/-- The fields of a filter. -/
def fields (format : Format) : List (RecordField Filter) :=
  .of "selector" (decodeOption (decodeSelector format)) (fun s f => { f with selector := s })
    :: NodeProperty.all.map (boundField format)

/-- A filter is the record of its fields. -/
theorem decode_eq : decode format = decodeRecord format (fields format) .empty := rfl

/-- The bounds of a filter and its selector are set independently of each other. -/
theorem orderly_fields : Orderly (fields format) where
  names := by
    have hnames : (fields format).map RecordField.name =
        "selector" :: NodeProperty.all.map NodeProperty.name := by
      simp only [fields, List.map_cons, List.map_map]
      rfl
    rw [hnames]
    decide
  commutes := by
    have hproperties : NodeProperty.all.Nodup := by decide
    refine .cons ?_ (List.pairwise_map.2 (hproperties.imp fun hne => ?_))
    · intro f hf
      obtain ⟨p, -, rfl⟩ := List.mem_map.1 hf
      exact commutes_of fun _ _ _ => rfl
    · exact commutes_of (setBound_comm hne)

end Filter

/-! ## Outcomes -/

/-- The fields of the body of an outcome. -/
def OutcomeBody.fields (format : Format) : List (RecordField OutcomeBody) :=
  [.of "when" (decodeText format) fun s body => { body with condition := s },
    .of "message" (decodeText format) fun s body => { body with message := s },
    .of "uri" (decodeOption (decodeText format)) fun s body => { body with uri := s }]

theorem OutcomeBody.decode_eq :
    decode format = decodeRecord format (fields format) ⟨"", "", none⟩ := rfl

theorem OutcomeBody.orderly_fields : Orderly (fields format) where
  names := by simp [OutcomeBody.fields]
  commutes := by simp [OutcomeBody.fields]

/-- The fields of an entry of a list of outcomes. -/
def OutcomeEntry.fields (format : Format) : List (RecordField OutcomeEntry) :=
  let body := decodeOption (OutcomeBody.decode format)
  [.of "fail" body fun b entry => { entry with fail := b },
    .of "warn" body fun b entry => { entry with warn := b },
    .of "pass" body fun b entry => { entry with pass := b }]

theorem OutcomeEntry.decode_eq :
    decode format = decodeRecord format (fields format) ⟨none, none, none⟩ := rfl

theorem OutcomeEntry.orderly_fields : Orderly (fields format) where
  names := by simp [OutcomeEntry.fields]
  commutes := by simp [OutcomeEntry.fields]

/-! ## Checks -/

/-- The fields of criteria. -/
def Criteria.fields (format : Format) : List (RecordField Criteria) :=
  [.of "filters" (decodeOption (Filter.decode format)) fun f c => { c with filter := f },
    .of "outcomes" (decodeOutcomes format) fun os c => { c with outcomes := os }]

theorem Criteria.decode_eq : decode format = decodeRecord format (fields format) ⟨none, []⟩ := rfl

theorem Criteria.orderly_fields : Orderly (fields format) where
  names := by simp [Criteria.fields]
  commutes := by simp [Criteria.fields]

namespace WorkloadRef

/-- The fields of a reference to a workload: its namespace and its name, as far as given. -/
def fields (format : Format) : List (RecordField (Option String × Option String)) :=
  [.of "namespace" (decodeText format) fun s (_, name) => (some s, name),
    .of "name" (decodeText format) fun s (ns, _) => (ns, some s)]

/-- The reference to a workload with a namespace and a name. -/
def ofParts (parts : Option String × Option String) : Decoded WorkloadRef := do
  let ns ← Decoded.require "a namespace" parts.1
  let name ← Decoded.require "a name" parts.2
  return ⟨ns, name⟩

theorem decode_eq :
    decode format = fun t => decodeRecord format (fields format) (none, none) t >>= ofParts := rfl

theorem orderly_fields : Orderly (fields format) where
  names := by simp [fields]
  commutes := by simp [fields]

end WorkloadRef

/-- What ties a check to a workload is a record of the entries that the check leaves over. -/
theorem Gating.decode_eq (others : List (String × Tree)) :
    decode others = decodeRecord .json fields none (map (named others)) := rfl

theorem Gating.orderly_fields : Orderly fields where
  names := by simp [Gating.fields]
  commutes := by simp [Gating.fields]

namespace NodeCheck

/-- The fields that a check of node resources knows itself. -/
def fields (format : Format) : List (RecordField NodeCheck) :=
  [.of "checkName" (decodeText format) fun s c => { c with name := s },
    .of "filters" (decodeOption (Filter.decode format)) fun f c =>
      { c with own := { c.own with filter := f } },
    .of "outcomes" (decodeOutcomes format) fun os c =>
      { c with own := { c.own with outcomes := os } }]

/-- The check of nothing. -/
def start : NodeCheck := ⟨"", ⟨none, []⟩, .none⟩

/-- The check with what its other entries tie it to. -/
def withGating (parts : NodeCheck × List (String × Tree)) : Decoded NodeCheck := do
  let gating ← Gating.decode parts.2
  return { parts.1 with gating }

theorem decode_eq :
    decode format = fun t => decodeOpenRecord format (fields format) start t >>= withGating := rfl

theorem orderly_fields : Orderly (fields format) where
  names := by simp [fields]
  commutes := by simp [fields]

end NodeCheck

/-! ## Documents -/

namespace AnalyzerEntry

/-- The field of an entry of a list of analyzers. -/
def fields (format : Format) : List (RecordField (Option NodeCheck)) :=
  [.of "nodeResources" (decodeOption (NodeCheck.decode format)) fun check _ => check]

/-- The entry with its analyzers of other kinds. -/
def withOthers (parts : Option NodeCheck × List (String × Tree)) : Decoded AnalyzerEntry := do
  let unsupported ← decodeUnsupported parts.2
  return ⟨parts.1, .ofList unsupported⟩

theorem decode_eq :
    decode format = fun t => decodeOpenRecord format (fields format) none t >>= withOthers := rfl

theorem orderly_fields : Orderly (fields format) := orderly_singleton _

/-- Analyzers of other kinds are kept under their kinds, each as the JSON value of its body, and
nothing is dropped. -/
theorem decodeUnsupported_gives_iff {others : List (String × Tree)} {lost : Multiset Nat}
    {unsupported : List (String × Json)} :
    (decodeUnsupported others).Gives lost unsupported ↔ lost = 0 ∧
      List.Forall₂ (fun e p => e.1 = p.1 ∧ e.2.toJson? = some p.2) others unsupported := by
  induction others generalizing lost unsupported with
  | nil => simp [decodeUnsupported, eq_comm]
  | cons e rest ih =>
      rw [decodeUnsupported, gives_cons_iff, List.forall₂_cons_left_iff]
      simp only [gives_require_iff, ih]
      constructor
      · intro h
        obtain ⟨body, others, _, _, ⟨rfl, hbody⟩, ⟨rfl, hothers⟩, rfl, rfl⟩ := h
        exact ⟨rfl, (e.1, body), others, ⟨rfl, hbody⟩, hothers, rfl⟩
      · intro h
        obtain ⟨rfl, p, others, ⟨hkind, hbody⟩, hothers, rfl⟩ := h
        exact ⟨p.2, others, 0, 0, ⟨rfl, hbody⟩, ⟨rfl, hothers⟩, rfl, by rw [hkind]⟩

end AnalyzerEntry

namespace PreflightDocument

/-- The field of the metadata. -/
def metadataFields (format : Format) : List (RecordField (Option String)) :=
  [.of "name" (decodeOption (decodeText format)) fun s _ => s]

theorem orderly_metadataFields : Orderly (metadataFields format) := orderly_singleton _

/-- The field of the body of a document. -/
def bodyFields (format : Format) : List (RecordField (List AnalyzerEntry)) :=
  [.of "analyzers" (decodeAnalyzers format) fun analyzers _ => analyzers]

theorem orderly_bodyFields : Orderly (bodyFields format) := orderly_singleton _

/-- The fields of a document. -/
def fields (format : Format) : List (RecordField PreflightDocument) :=
  [.of "apiVersion" (decodeOption (decodeText format)) fun s d => { d with apiVersion := s },
    .of "kind" (decodeOption (decodeText format)) fun s d => { d with kind := s },
    .of "metadata" (Tree.decodeRecord format (metadataFields format) none) fun s d =>
      { d with name := s },
    .of "spec" (Tree.decodeRecord format (bodyFields format) []) fun analyzers d =>
      { d with analyzers }]

theorem decodeRecord_eq :
    decodeRecord format = Tree.decodeRecord format (fields format) (ofAnalyzers []) := rfl

theorem orderly_fields : Orderly (fields format) where
  names := by simp [fields]
  commutes := by simp [fields]

/-- A document that is a list has its analyzers only. -/
theorem decode_of_list {t : Tree} {ts : List Tree} (h : t.stripped format = list ts) :
    decode format t = ofAnalyzers <$> decodeAnalyzers format t := by
  rw [decode, h]

/-- Any other document is read as a record. -/
theorem decode_of_not_list {t : Tree} (h : ∀ ts, t.stripped format ≠ list ts) :
    decode format t = decodeRecord format t := by
  unfold decode
  split
  · next heq => exact absurd heq (h _)
  · rfl

end PreflightDocument
end NodeFit
