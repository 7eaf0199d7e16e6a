import NodeFit.Dictionary
import NodeFit.Quantity

/-!
# NodeFit.Node

Cluster nodes and the amounts they report.

A node has a name, labels, and for each of its two sides, what it has and what
it can hand out, an optional amount of each of four resources.  A property
names one resource of one side; filters and conditionals refer to amounts by
the names of properties.

Amounts are kept in one table of resources for each side rather than in eight
fields, so that one lemma on `PerResource.get` and `PerSide.get` speaks of all of
them.  A name that belongs to no property is no error: `ClusterNode.lookup` treats
it like an amount that goes unreported.
-/

namespace NodeFit

/-! ## Resources and sides -/

/-- A resource that nodes report. -/
inductive Resource where
  | cpu
  | memory
  | pods
  | ephemeralStorage
deriving DecidableEq, Repr

/-- What an amount counts: all that a node has, or what it can hand out. -/
inductive Side where
  | capacity
  | allocatable
deriving DecidableEq, Repr

/-- A value for each resource. -/
structure PerResource (α : Type) where
  cpu : α
  memory : α
  pods : α
  ephemeralStorage : α
deriving DecidableEq, Repr

namespace PerResource

variable {α β : Type}

def get (t : PerResource α) : Resource → α
  | .cpu => t.cpu
  | .memory => t.memory
  | .pods => t.pods
  | .ephemeralStorage => t.ephemeralStorage

def set (t : PerResource α) : Resource → α → PerResource α
  | .cpu, a => { t with cpu := a }
  | .memory, a => { t with memory := a }
  | .pods, a => { t with pods := a }
  | .ephemeralStorage, a => { t with ephemeralStorage := a }

/-- The table of a function. -/
def ofFn (f : Resource → α) : PerResource α :=
  ⟨f .cpu, f .memory, f .pods, f .ephemeralStorage⟩

/-- The table of a function that may fail; the first failure in the order cpu,
memory, pods, ephemeral storage counts. -/
def ofFnM {ε : Type} (f : Resource → Except ε α) : Except ε (PerResource α) := do
  let cpu ← f .cpu
  let memory ← f .memory
  let pods ← f .pods
  let ephemeralStorage ← f .ephemeralStorage
  return ⟨cpu, memory, pods, ephemeralStorage⟩

@[simp] theorem get_ofFn (f : Resource → α) (r : Resource) : (ofFn f).get r = f r := by
  cases r <;> rfl

/-- Changing one entry of a table leaves the others. -/
@[simp] theorem get_set (t : PerResource α) (r s : Resource) (a : α) :
    (t.set r a).get s = if s = r then a else t.get s := by
  cases r <;> cases s <;> rfl

end PerResource

/-- A value for each side. -/
structure PerSide (α : Type) where
  capacity : α
  allocatable : α
deriving DecidableEq, Repr

namespace PerSide

variable {α : Type}

def get (t : PerSide α) : Side → α
  | .capacity => t.capacity
  | .allocatable => t.allocatable

def set (t : PerSide α) : Side → α → PerSide α
  | .capacity, a => { t with capacity := a }
  | .allocatable, a => { t with allocatable := a }

/-- Changing one entry of a table leaves the others. -/
@[simp] theorem get_set (t : PerSide α) (s u : Side) (a : α) :
    (t.set s a).get u = if u = s then a else t.get u := by
  cases s <;> cases u <;> rfl

end PerSide

/-! ## Properties -/

/-- One resource of one side. -/
structure NodeProperty where
  resource : Resource
  side : Side
deriving DecidableEq, Repr

namespace NodeProperty

/-- All properties, in the order in which filters look at them. -/
def all : List NodeProperty :=
  [⟨.cpu, .capacity⟩, ⟨.cpu, .allocatable⟩, ⟨.memory, .capacity⟩, ⟨.memory, .allocatable⟩,
    ⟨.pods, .capacity⟩, ⟨.pods, .allocatable⟩,
    ⟨.ephemeralStorage, .capacity⟩, ⟨.ephemeralStorage, .allocatable⟩]

/-- The name that filters and conditionals use. -/
def name : NodeProperty → String
  | ⟨.cpu, .capacity⟩ => "cpuCapacity"
  | ⟨.cpu, .allocatable⟩ => "cpuAllocatable"
  | ⟨.memory, .capacity⟩ => "memoryCapacity"
  | ⟨.memory, .allocatable⟩ => "memoryAllocatable"
  | ⟨.pods, .capacity⟩ => "podCapacity"
  | ⟨.pods, .allocatable⟩ => "podAllocatable"
  | ⟨.ephemeralStorage, .capacity⟩ => "ephemeralStorageCapacity"
  | ⟨.ephemeralStorage, .allocatable⟩ => "ephemeralStorageAllocatable"

/-- The property of a name. -/
def ofName? (name : String) : Option NodeProperty := all.find? fun p => p.name == name

theorem mem_all (p : NodeProperty) : p ∈ all := by
  rcases p with ⟨r, s⟩
  cases r <;> cases s <;> decide

/-- A property is found by its own name, so that names are distinct. -/
@[simp] theorem ofName?_name (p : NodeProperty) : ofName? p.name = some p := by
  rcases p with ⟨r, s⟩
  cases r <;> cases s <;> decide

end NodeProperty

/-! ## Nodes -/

/-- The amounts of one side of a node; a resource may go unreported. -/
abbrev Amounts := PerResource (Option Quantity)

/-- No amount at all. -/
def Amounts.none : Amounts := ⟨.none, .none, .none, .none⟩

/-- A node as checks see it. -/
structure ClusterNode where
  name : String
  labels : Dictionary String
  amounts : PerSide Amounts
deriving DecidableEq, Repr

namespace ClusterNode

/-- A node of which only the name is known. -/
def ofName (name : String) : ClusterNode := ⟨name, .empty, ⟨.none, .none⟩⟩

def get? (node : ClusterNode) (p : NodeProperty) : Option Quantity :=
  (node.amounts.get p.side).get p.resource

/-- The node with one more label, or with a new value for a label. -/
def withLabel (node : ClusterNode) (key value : String) : ClusterNode :=
  { node with labels := node.labels.insert key value }

def withAmount (node : ClusterNode) (p : NodeProperty) (q : Quantity) : ClusterNode :=
  { node with
    amounts := node.amounts.set p.side ((node.amounts.get p.side).set p.resource (some q)) }

/-- The amount of the property of a name.  A name that belongs to no property is
treated like one that the node does not report. -/
def lookup (node : ClusterNode) (name : String) : Option Quantity :=
  (NodeProperty.ofName? name).bind node.get?

/-- Whether the node carries a label with exactly the given value. -/
def hasLabel (node : ClusterNode) (label : String × String) : Bool :=
  node.labels.get? label.1 == some label.2

/-- Setting the amount of one property leaves those of the others. -/
@[simp] theorem get?_withAmount (node : ClusterNode) (p r : NodeProperty) (q : Quantity) :
    (node.withAmount p q).get? r = if r = p then some q else node.get? r := by
  rcases p with ⟨_, s⟩
  rcases r with ⟨_, s'⟩
  cases s <;> cases s' <;> simp [withAmount, get?, NodeProperty.mk.injEq, PerSide.get, PerSide.set]

end ClusterNode
end NodeFit
