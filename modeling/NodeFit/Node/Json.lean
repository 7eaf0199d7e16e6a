import NodeFit.Node
import NodeFit.Quantity.Parser
import NodeFit.Quantity.Printer
import NodeFit.Tree.Decoder

/-!
# NodeFit.Node.Json

Nodes as JSON: how lists of nodes are shown to programs, and read back.

Amounts are written in canonical form, an amount that is not reported as null.
Reading takes any quantity, and lets an amount be missing.

A node is an object with a name, labels and the two sides, and each side an object with an entry for
every resource.  Fields may come in any order.  A side may also be given as the list of its four
amounts, none of which may be missing then.
-/

namespace NodeFit

open NodeFit.Tree

/-! ## Writing -/

def Quantity.toJson (q : Quantity) : Json := .text q.text

def Amounts.toJson (amounts : Amounts) : Json :=
  let amount := fun q : Option Quantity => q.elim Json.null Quantity.toJson
  .object
    [("cpu", amount amounts.cpu), ("memory", amount amounts.memory), ("pods", amount amounts.pods),
      ("ephemeralStorage", amount amounts.ephemeralStorage)]

def ClusterNode.toJson (node : ClusterNode) : Json :=
  .object
    [("name", .text node.name), ("labels", .ofTexts node.labels),
      ("capacity", node.amounts.capacity.toJson),
      ("allocatable", node.amounts.allocatable.toJson)]

/-! ## Reading -/

def Quantity.decode (t : Tree) : Decoded Quantity := do
  let s ← decodeText .json t
  Decoded.require "a quantity" (parse s).toOption

/-- Reads the amounts of one side.  A map may leave amounts out, a list must give all four. -/
def Amounts.decode (t : Tree) : Decoded Amounts := do
  let amount := decodeOption Quantity.decode
  let amounts ← decodeRecord .json
    [.of "cpu" amount fun q a => { a with cpu := q },
      .of "memory" amount fun q a => { a with memory := q },
      .of "pods" amount fun q a => { a with pods := q },
      .of "ephemeralStorage" amount fun q a => { a with ephemeralStorage := q }]
    .none t
  match t with
  | list values => if values.length < 4 then .expected "four amounts" else return amounts
  | _ => return amounts

/-- The parts of a node that have been read. -/
structure ClusterNode.Parts where
  name : Option String
  labels : Option (Dictionary String)
  capacity : Option Amounts
  allocatable : Option Amounts

/-- Reads a node; all its parts must be there. -/
def ClusterNode.decode (t : Tree) : Decoded ClusterNode := do
  let parts ← decodeRecord .json
    [.of "name" (decodeText .json) fun s (p : Parts) => { p with name := some s },
      .of "labels" (decodeTexts .json) fun d p => { p with labels := some d },
      .of "capacity" Amounts.decode fun a p => { p with capacity := some a },
      .of "allocatable" Amounts.decode fun a p => { p with allocatable := some a }]
    ⟨none, none, none, none⟩ t
  let name ← Decoded.require "a name" parts.name
  let labels ← Decoded.require "labels" parts.labels
  let capacity ← Decoded.require "a capacity" parts.capacity
  let allocatable ← Decoded.require "what is allocatable" parts.allocatable
  return ⟨name, labels, ⟨capacity, allocatable⟩⟩

end NodeFit
