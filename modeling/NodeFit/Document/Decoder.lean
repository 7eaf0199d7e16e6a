import NodeFit.Document
import NodeFit.Tree.Decoder

/-!
# NodeFit.Document.Decoder

Reading preflight documents from document trees.

A document is a record or a bare list of analyzers.  Entries of a list of outcomes
that name no verdict are dropped, and the number of those dropped is reported; an
entry of the wrong form is an error.  The fields that tie a check to a workload
share a map with its other fields and are read by the rules of JSON in either
format.

A record is a list of fields, each with the part of the record that it sets (`Tree.RecordField`).
Most of the records of a document have a handful of fields; a filter has one for each property, made
from a table.  The two open records hand on what they do not know: a check to its gating, an entry
to the analyzers of other kinds, which are kept as JSON values.

Unlike a missing verdict, a field of the wrong kind or one that is given twice is an error, and the
document is refused.  The numbers of dropped entries up to there are reported nevertheless.
-/

namespace NodeFit

open NodeFit.Tree

/-! ## Filters -/

namespace Filter

def decodeSelector (format : Format) : Tree → Decoded Selector :=
  decodeRecord format
    [.of "matchLabel" (decodeTexts format) fun labels _ => ⟨labels⟩]
    ⟨.empty⟩

/-- The field that bounds a property. -/
def boundField (format : Format) (p : NodeProperty) : RecordField Filter :=
  .of p.name (decodeOption (decodeText format)) fun bound filter =>
    { filter with
      bounds := filter.bounds.set p.resource ((filter.bounds.get p.resource).set p.side bound) }

/-- Reads a filter. -/
def decode (format : Format) : Tree → Decoded Filter :=
  decodeRecord format
    (.of "selector" (decodeOption (decodeSelector format)) (fun s f => { f with selector := s })
      :: NodeProperty.all.map (boundField format))
    .empty

end Filter

/-! ## Outcomes -/

def OutcomeBody.decode (format : Format) : Tree → Decoded OutcomeBody :=
  decodeRecord format
    [.of "when" (decodeText format) fun s body => { body with condition := s },
      .of "message" (decodeText format) fun s body => { body with message := s },
      .of "uri" (decodeOption (decodeText format)) fun s body => { body with uri := s }]
    ⟨"", "", none⟩

/-- An entry of a list of outcomes as it is written: a body for each verdict. -/
structure OutcomeEntry where
  fail : Option OutcomeBody
  warn : Option OutcomeBody
  pass : Option OutcomeBody
deriving DecidableEq, Repr

namespace OutcomeEntry

/-- Reads an entry. -/
def decode (format : Format) : Tree → Decoded OutcomeEntry :=
  let body := decodeOption (OutcomeBody.decode format)
  decodeRecord format
    [.of "fail" body fun b entry => { entry with fail := b },
      .of "warn" body fun b entry => { entry with warn := b },
      .of "pass" body fun b entry => { entry with pass := b }]
    ⟨none, none, none⟩

/-- The outcome of an entry.  Of several verdicts the gravest counts. -/
def outcome? (entry : OutcomeEntry) : Option Outcome :=
  entry.fail.map (⟨.fail, ·⟩) <|> entry.warn.map (⟨.warn, ·⟩) <|> entry.pass.map (⟨.pass, ·⟩)

end OutcomeEntry

/-- Reads a single outcome, which must name a verdict. -/
def Outcome.decode (format : Format) (t : Tree) : Decoded Outcome := do
  let entry ← OutcomeEntry.decode format t
  Decoded.require "one of fail, warn and pass" entry.outcome?

/-- The outcomes of some entries; a number of dropped entries other than zero is
reported. -/
def keepOutcomes (entries : List OutcomeEntry) : Decoded (List Outcome) :=
  let outcomes := entries.filterMap OutcomeEntry.outcome?
  let lost := entries.length - outcomes.length
  ⟨if lost == 0 then [] else [lost], .ok outcomes⟩

/-- Reads a list of outcomes. -/
def decodeOutcomes (format : Format) (t : Tree) : Decoded (List Outcome) := do
  let entries ← decodeList format (OutcomeEntry.decode format) t
  keepOutcomes entries

/-! ## Checks -/

/-- Reads the criteria for one state of a workload. -/
def Criteria.decode (format : Format) : Tree → Decoded Criteria :=
  decodeRecord format
    [.of "filters" (decodeOption (Filter.decode format)) fun f c => { c with filter := f },
      .of "outcomes" (decodeOutcomes format) fun os c => { c with outcomes := os }]
    ⟨none, []⟩

/-- Reads a reference to a workload; both its fields must be there. -/
def WorkloadRef.decode (format : Format) (t : Tree) : Decoded WorkloadRef := do
  let (ns, name) ← decodeRecord format
    [.of "namespace" (decodeText format) fun s (_, name) => (some s, name),
      .of "name" (decodeText format) fun s (ns, _) => (ns, some s)]
    (none, none) t
  let ns ← Decoded.require "a namespace" ns
  let name ← Decoded.require "a name" name
  return ⟨ns, name⟩

namespace Gating

/-- A check that depends on no workload. -/
def none : Gating := ⟨.none, .none, .none⟩

/-- The fields that tie a check to a workload. -/
def fields : List (RecordField Gating) :=
  [.of "deployment" (decodeOption (WorkloadRef.decode .json))
      fun w g => { g with deployment := w },
    .of "onInstall" (decodeOption (Criteria.decode .json)) fun c g => { g with onInstall := c },
    .of "onUpdate" (decodeOption (Criteria.decode .json)) fun c g => { g with onUpdate := c }]

/-- Reads these fields from the entries that a check does not know itself. -/
def decode (others : List (String × Tree)) : Decoded Gating := do
  let ignore := fun (_ : String) (_ : Tree) (r : Reading Gating) => pure r
  let entries := others.map fun (name, value) => (Tree.text name, value)
  let r ← (Reading.start none).takeAll .json fields ignore entries
  return r.record

end Gating

def NodeCheck.decode (format : Format) (t : Tree) : Decoded NodeCheck := do
  let (check, others) ← decodeOpenRecord format
    [.of "checkName" (decodeText format) fun s (c : NodeCheck) => { c with name := s },
      .of "filters" (decodeOption (Filter.decode format)) fun f (c : NodeCheck) =>
        { c with own := { c.own with filter := f } },
      .of "outcomes" (decodeOutcomes format) fun os (c : NodeCheck) =>
        { c with own := { c.own with outcomes := os } }]
    ⟨"", ⟨none, []⟩, .none⟩ t
  let gating ← Gating.decode others
  return { check with gating }

/-! ## Documents -/

namespace AnalyzerEntry

/-- The analyzers of other kinds, as JSON values. -/
def decodeUnsupported : List (String × Tree) → Decoded (List (String × Json))
  | [] => pure []
  | (kind, body) :: rest => do
    let body ← Decoded.require "names of fields that are texts" body.toJson?
    let rest ← decodeUnsupported rest
    return (kind, body) :: rest

/-- Reads an entry of a list of analyzers. -/
def decode (format : Format) (t : Tree) : Decoded AnalyzerEntry := do
  let (nodeResources, others) ← decodeOpenRecord format
    [.of "nodeResources" (decodeOption (NodeCheck.decode format)) fun check _ => check] none t
  let unsupported ← decodeUnsupported others
  return ⟨nodeResources, .ofList unsupported⟩

end AnalyzerEntry

namespace PreflightDocument

def decodeAnalyzers (format : Format) : Tree → Decoded (List AnalyzerEntry) :=
  decodeList format (AnalyzerEntry.decode format)

/-- Reads a document that is a record. -/
def decodeRecord (format : Format) : Tree → Decoded PreflightDocument :=
  let optionalText := decodeOption (decodeText format)
  let metadata := Tree.decodeRecord format [.of "name" optionalText fun s _ => s] none
  let body := Tree.decodeRecord format
    [.of "analyzers" (decodeAnalyzers format) fun analyzers _ => analyzers] []
  Tree.decodeRecord format
    [.of "apiVersion" optionalText fun s d => { d with apiVersion := s },
      .of "kind" optionalText fun s d => { d with kind := s },
      .of "metadata" metadata fun s d => { d with name := s },
      .of "spec" body fun analyzers d => { d with analyzers }]
    (ofAnalyzers [])

/-- Reads a document, a bare list of analyzers or a record. -/
def decode (format : Format) (t : Tree) : Decoded PreflightDocument :=
  match t.stripped format with
  | list _ => ofAnalyzers <$> decodeAnalyzers format t
  | _ => decodeRecord format t

end PreflightDocument
end NodeFit
