import NodeFit.Cluster.DeploymentSchema
import NodeFit.Cluster.NodeSchema
import NodeFit.Node
import NodeFit.Quantity.Parser

/-!
# NodeFit.Cluster.Payload

Lists of cluster objects as they were collected.

A payload is a JSON list whose items conform to the schema of their kind.  Of nodes
the name, the labels and the amounts of the four known resources are kept, of
deployments the namespace and the name.  One amount that is no quantity refuses the
whole list.

Reading has two steps.  First the fields that are of interest are taken out of an object as texts
(`NodeRecord.ofTree`, `WorkloadRecord.ofTree`), where a missing field is empty or no amount; this
cannot fail.  Then the texts of amounts become quantities (`NodeRecord.toNode`), in a fixed order,
and the first that is none is reported with the name of its node.  Deployments have no second step.
-/

namespace NodeFit.Cluster

/-! ## Parts of objects -/

/-- Whether a key is a given text. -/
def isKey (name : String) : Tree → Bool
  | .text s => s == name
  | _ => false

/-- The last value of a field, unless that is null. -/
def field? (name : String) : Tree → Option Tree
  | .map entries =>
    match entries.reverse.find? fun entry => isKey name entry.1 with
    | some (_, .null) => none
    | some (_, value) => some value
    | none => none
  | _ => none

def textField? (name : String) (t : Tree) : Option String :=
  match field? name t with
  | some (.text s) => some s
  | _ => none

/-- The pairs of texts of a map. -/
def textPairs (entries : List (Tree × Tree)) : List (String × String) :=
  entries.filterMap fun entry =>
    match entry with
    | (.text key, .text value) => some (key, value)
    | _ => none

/-- The map from texts to texts of a field. -/
def textsField? (name : String) (t : Tree) : Option (Dictionary String) :=
  match field? name t with
  | some (.map entries) => some (.ofList (textPairs entries))
  | _ => none

/-- The items of a payload, if it is a list of objects of one schema. -/
def objects? (schema : Schema) (payload : Bytes) : Option (List Tree) :=
  match (Json.Written.ofBytes? payload).map Tree.ofWritten with
  | some (.list items) => if items.all schema.conforms then some items else none
  | _ => none

/-! ## Nodes -/

/-- Why a payload is no list of nodes. -/
inductive NodeListError where
  /-- It is not a JSON list of nodes. -/
  | malformed
  /-- An amount of a node is no quantity. -/
  | quantity (node : String) (error : QuantityError)
deriving DecidableEq, Repr

/-- The sentence that reports the error.  What exactly is malformed is not told: one phrase stands
for all that a reader of JSON may say about it. -/
def NodeListError.message : NodeListError → String
  | .malformed => "failed to unmarshal node list: the payload is not a JSON list of nodes"
  | .quantity node error =>
    "failed to unmarshal node list: node " ++ Text.quoted node ++ ": " ++ error.message

def resourceName : Resource → String
  | .cpu => "cpu"
  | .memory => "memory"
  | .pods => "pods"
  | .ephemeralStorage => "ephemeral-storage"

/-- A node before its amounts are read. -/
structure NodeRecord where
  name : String
  labels : Dictionary String
  /-- The written amounts of each side, by the names of resources. -/
  amounts : PerSide (Dictionary String)
deriving DecidableEq, Repr

/-- The parts of a node that are kept; missing ones are empty. -/
def NodeRecord.ofTree (t : Tree) : NodeRecord :=
  let metadata := (field? "metadata" t).getD .null
  let status := (field? "status" t).getD .null
  { name := (textField? "name" metadata).getD ""
    labels := (textsField? "labels" metadata).getD .empty
    amounts :=
      ⟨(textsField? "capacity" status).getD .empty,
        (textsField? "allocatable" status).getD .empty⟩ }

/-- Reads the amount of one resource, if it is written. -/
def readAmount (written : Dictionary String) (r : Resource) :
    Except QuantityError (Option Quantity) :=
  match written.get? (resourceName r) with
  | none => .ok none
  | some s => (Quantity.parse s).map some

def readAmounts (written : Dictionary String) : Except QuantityError Amounts :=
  PerResource.ofFnM (readAmount written)

/-- Reads all amounts of a node: what it has first, then what it can hand out. -/
def NodeRecord.toNode (record : NodeRecord) : Except QuantityError ClusterNode := do
  let capacity ← readAmounts record.amounts.capacity
  let allocatable ← readAmounts record.amounts.allocatable
  return ⟨record.name, record.labels, ⟨capacity, allocatable⟩⟩

/-- Reads the amounts of some nodes; the first failure counts. -/
def readNodes : List NodeRecord → Except NodeListError (List ClusterNode)
  | [] => .ok []
  | record :: rest =>
    match record.toNode with
    | .error e => .error (.quantity record.name e)
    | .ok node => (readNodes rest).map (node :: ·)

/-- The nodes of a payload. -/
def decodeNodes (payload : Bytes) : Except NodeListError (List ClusterNode) :=
  match objects? .node payload with
  | none => .error .malformed
  | some items => readNodes (items.map NodeRecord.ofTree)

/-! ## Deployments -/

/-- A deployment that exists. -/
structure WorkloadRecord where
  ns : String
  name : String
deriving DecidableEq, Repr

/-- The deployment of a tree; without a namespace it is taken to be in the given one. -/
def WorkloadRecord.ofTree (ns : String) (t : Tree) : WorkloadRecord :=
  let metadata := (field? "metadata" t).getD .null
  ⟨(textField? "namespace" metadata).getD ns, (textField? "name" metadata).getD ""⟩

/-- The deployments of a payload that was collected for a namespace. -/
def decodeDeployments? (payload : Bytes) (ns : String) : Option (List WorkloadRecord) :=
  (objects? .deployment payload).map fun items => items.map (WorkloadRecord.ofTree ns)

end NodeFit.Cluster
