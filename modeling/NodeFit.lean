import NodeFit.Main
import NodeFit.Result.Decoder
import NodeFit.Session
import NodeFit.Proofs.Quantity.Written
import NodeFit.Proofs.Quantity.Suffix
import NodeFit.Proofs.Quantity.Value
import NodeFit.Proofs.Quantity.Range
import NodeFit.Proofs.Quantity.RoundTrip
import NodeFit.Proofs.Quantity.Literal
import NodeFit.Proofs.Quantity.Canonical
import NodeFit.Proofs.Aggregate
import NodeFit.Proofs.Conditional
import NodeFit.Proofs.Conditional.Meaning
import NodeFit.Proofs.Conditional.Failure
import NodeFit.Proofs.Conditional.RoundTrip
import NodeFit.Proofs.Conditional.Integer
import NodeFit.Proofs.Filter
import NodeFit.Proofs.Filter.Bound
import NodeFit.Proofs.Filter.Judgement
import NodeFit.Proofs.Order
import NodeFit.Proofs.Analysis
import NodeFit.Proofs.Analysis.Keys
import NodeFit.Proofs.Analysis.Dependence
import NodeFit.Proofs.Run
import NodeFit.Proofs.Run.Parallel
import NodeFit.Proofs.Run.Log
import NodeFit.Proofs.Session
import NodeFit.Proofs.Command
import NodeFit.Proofs.Command.Eval
import NodeFit.Proofs.Command.Selector
import NodeFit.Proofs.Command.Reported
import NodeFit.Proofs.Dictionary
import NodeFit.Proofs.Tree.Decoded
import NodeFit.Proofs.Tree.Json
import NodeFit.Proofs.Tree.Record
import NodeFit.Proofs.Tree.Decoder
import NodeFit.Proofs.Tree.Simple
import NodeFit.Proofs.Tree.Formats
import NodeFit.Proofs.Document.Schema
import NodeFit.Proofs.Document.Formats
import NodeFit.Proofs.Tree.Filled
import NodeFit.Proofs.Tree.Invariant
import NodeFit.Proofs.Document.RoundTrip
import NodeFit.Proofs.Conditional.Grammar
import NodeFit.Proofs.Aggregate.Sum
import NodeFit.Proofs.Quantity.Grammar
import NodeFit.Proofs.Cluster.Payload
import NodeFit.Proofs.Store.History
import NodeFit.Proofs.Path
import NodeFit.Proofs.Store.Directory
import NodeFit.Proofs.Node.Same
import NodeFit.Proofs.Node.RoundTrip
import NodeFit.Proofs.Tree.Entries
import NodeFit.Proofs.Tree.Variation
import NodeFit.Proofs.Document.Outcomes
import NodeFit.Proofs.Document.Insertion
