import NodeFit.Check
import NodeFit.Json

/-!
# NodeFit.Document

Preflight documents: the lists of analyzers that a run goes through.

An entry of the list may hold a check of node resources.  Analyzers of other kinds
are kept as they are, so that they can be named and written back; they are never
evaluated.

The title of a document is optional; a run of a document without one goes by a usual name.  An
entry may hold several analyzers of other kinds, and a check besides; the kinds are distinct, so
that a dictionary holds their bodies.
-/

namespace NodeFit

/-- One entry of a list of analyzers. -/
structure AnalyzerEntry where
  nodeResources : Option NodeCheck
  /-- The analyzers of other kinds, by kind. -/
  unsupported : Dictionary Json

/-- The kinds of analyzer in an entry that are not evaluated. -/
def AnalyzerEntry.unsupportedKinds (entry : AnalyzerEntry) : List String := entry.unsupported.keys

/-- A document. -/
structure PreflightDocument where
  apiVersion : Option String
  kind : Option String
  /-- The name in the metadata. -/
  name : Option String
  analyzers : List AnalyzerEntry

/-- The document that is nothing but a list of analyzers. -/
def PreflightDocument.ofAnalyzers (analyzers : List AnalyzerEntry) : PreflightDocument :=
  ⟨none, none, none, analyzers⟩

end NodeFit
