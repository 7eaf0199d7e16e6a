import NodeFit.Proofs.Cluster.Object
import NodeFit.Proofs.Except

/-!
# NodeFit.Proofs.Cluster.Payload

What is read of a list of nodes.

Of an object its name, its labels and eight amounts are read (`AmountField.all`).  A list of
nodes can be read exactly when each of these amounts is missing or a quantity, and then each node
shows what its object holds (`Shows`).  Otherwise the first such amount that is no quantity is
reported (`decodeNodes_reads`).

The order of the errors is that of the objects, and within an object that of `readOrder`: what a
node has before what it can hand out, and on either side cpu, memory, pods and ephemeral storage.
The proof follows that order level by level:

* a table of a resource each is read when all its entries are (`ofFnM_eq_ok_iff`),
* a record becomes a node when its two tables are read (`toNode_eq_ok_iff`),
* a list of records is read when all of them are (`readNodes_eq_ok_iff`),

each with the matching statement about the first failure.
-/

namespace NodeFit

/-! ## Tables of resources -/

namespace PerResource

variable {ε α : Type} {f : Resource → Except ε α} {e : ε}

/-- The resources, in the order in which they are read. -/
def order : List Resource := [.cpu, .memory, .pods, .ephemeralStorage]

/-- A table of a function that may fail holds the value of every resource. -/
theorem ofFnM_eq_ok_iff {t : PerResource α} : ofFnM f = .ok t ↔ ∀ r, f r = .ok (t.get r) := by
  simp only [ofFnM, bind_eq_ok_iff]
  constructor
  · rintro ⟨cpu, hcpu, memory, hmemory, pods, hpods, storage, hstorage, h⟩ r
    obtain rfl := Except.ok.inj h
    cases r <;> assumption
  · intro h
    exact ⟨_, h .cpu, _, h .memory, _, h .pods, _, h .ephemeralStorage, rfl⟩

/-- A table fails with the first failure in the order of its resources. -/
theorem ofFnM_eq_error_iff : ofFnM f = .error e ↔ FirstFails f order e := by
  simp only [ofFnM, bind_eq_error_iff, order, firstFails_cons, not_firstFails_nil, pure_ne_error,
    and_false, exists_false, or_false, exists_and_right]

theorem exists_ofFnM_eq_ok_iff :
    (∃ t, ofFnM f = .ok t) ↔ ∀ r ∈ order, ∃ a, f r = .ok a :=
  exists_eq_ok_iff_of_firstFails fun _ => ofFnM_eq_error_iff

end PerResource

namespace Cluster

open Schema

/-! ## Amounts of nodes -/

/-- The field of a node's status that holds a side. -/
def sideName : Side → String
  | .capacity => "capacity"
  | .allocatable => "allocatable"

/-- Where an amount of a node is written. -/
structure AmountField where
  /-- The name of the property that the amount becomes. -/
  property : String
  /-- The field of the status. -/
  side : String
  /-- The name of the resource. -/
  resource : String

namespace AmountField

/-- The amounts that are read, in the order in which they are read. -/
def all : List AmountField :=
  [⟨"cpuCapacity", "capacity", "cpu"⟩, ⟨"memoryCapacity", "capacity", "memory"⟩,
    ⟨"podCapacity", "capacity", "pods"⟩,
    ⟨"ephemeralStorageCapacity", "capacity", "ephemeral-storage"⟩,
    ⟨"cpuAllocatable", "allocatable", "cpu"⟩, ⟨"memoryAllocatable", "allocatable", "memory"⟩,
    ⟨"podAllocatable", "allocatable", "pods"⟩,
    ⟨"ephemeralStorageAllocatable", "allocatable", "ephemeral-storage"⟩]

/-- The text of the amount, if there is one. -/
def written? (field : AmountField) (t : Tree) : Option String :=
  textAt? ["status", field.side, field.resource] t

/-- The amount is missing or a quantity. -/
def Sound (field : AmountField) (t : Tree) : Prop :=
  ∀ s, field.written? t = some s → ∃ q, Quantity.parse s = .ok q

/-- Where the amount of a property is written. -/
def ofProperty (p : NodeProperty) : AmountField :=
  ⟨p.name, sideName p.side, resourceName p.resource⟩

end AmountField

/-- The properties, in the order in which their amounts are read. -/
def readOrder : List NodeProperty :=
  PerResource.order.map (⟨·, .capacity⟩) ++ PerResource.order.map (⟨·, .allocatable⟩)

/-- The fields are read in the order of the properties. -/
theorem all_eq_map_ofProperty : AmountField.all = readOrder.map .ofProperty := rfl

theorem mem_readOrder (p : NodeProperty) : p ∈ readOrder := by
  obtain ⟨r, s⟩ := p
  cases r <;> cases s <;> decide

namespace NodeRecord

variable {record : NodeRecord} {node : ClusterNode} {e : QuantityError}

/-- Reads the amount of one property. -/
def read (record : NodeRecord) (p : NodeProperty) : Except QuantityError (Option Quantity) :=
  readAmount (record.amounts.get p.side) p.resource

/-- A node is made of the name and the labels of its record and of all amounts. -/
theorem toNode_eq_ok_iff :
    record.toNode = .ok node ↔ node.name = record.name ∧ node.labels = record.labels ∧
      ∀ p, record.read p = .ok (node.get? p) := by
  simp only [toNode, readAmounts, bind_eq_ok_iff, PerResource.ofFnM_eq_ok_iff]
  constructor
  · rintro ⟨capacity, hcapacity, allocatable, hallocatable, h⟩
    obtain rfl := Except.ok.inj h
    refine ⟨rfl, rfl, ?_⟩
    rintro ⟨r, s⟩
    cases s with
    | capacity => exact hcapacity r
    | allocatable => exact hallocatable r
  · obtain ⟨name, labels, capacity, allocatable⟩ := node
    rintro ⟨rfl, rfl, h⟩
    exact ⟨capacity, fun r => h ⟨r, .capacity⟩, allocatable, fun r => h ⟨r, .allocatable⟩, rfl⟩

/-- A record fails with the first of its amounts that cannot be read. -/
theorem toNode_eq_error_iff : record.toNode = .error e ↔ FirstFails record.read readOrder e := by
  simp only [toNode, readAmounts, bind_eq_error_iff, pure_ne_error, and_false, exists_false,
    or_false, exists_and_right, PerResource.ofFnM_eq_error_iff, PerResource.exists_ofFnM_eq_ok_iff]
  -- The amounts of the second side are reached when all of the first are read.
  rw [readOrder, firstFails_append, firstFails_map, firstFails_map, List.forall_mem_map]
  rfl

theorem exists_toNode_eq_ok_iff :
    (∃ node, record.toNode = .ok node) ↔ ∀ p ∈ readOrder, ∃ a, record.read p = .ok a :=
  exists_eq_ok_iff_of_firstFails fun _ => toNode_eq_error_iff

/-- Records with the same name, labels and amounts of properties make the same node. -/
theorem toNode_congr {record' : NodeRecord} (hname : record.name = record'.name)
    (hlabels : record.labels = record'.labels) (h : ∀ p, record.read p = record'.read p) :
    record.toNode = record'.toNode := by
  have hcapacity : readAmounts record.amounts.capacity = readAmounts record'.amounts.capacity :=
    congrArg PerResource.ofFnM (funext fun r => h ⟨r, .capacity⟩)
  have hallocatable :
      readAmounts record.amounts.allocatable = readAmounts record'.amounts.allocatable :=
    congrArg PerResource.ofFnM (funext fun r => h ⟨r, .allocatable⟩)
  rw [toNode, toNode, hname, hlabels, hcapacity, hallocatable]

end NodeRecord

/-! ## Lists of nodes -/

variable {records : List NodeRecord}

/-- Reads a node, whose name is reported with what is wrong. -/
def NodeRecord.toNamedNode (record : NodeRecord) : Except NodeListError ClusterNode :=
  record.toNode.mapError (.quantity record.name)

theorem readNodes_cons (record : NodeRecord) (rest : List NodeRecord) :
    readNodes (record :: rest) =
      record.toNamedNode >>= fun node => (readNodes rest).map (node :: ·) := by
  rw [readNodes, NodeRecord.toNamedNode]
  cases record.toNode <;> rfl

/-- A list of records is read when each of them becomes a node, and the nodes are in the order of
the records. -/
theorem readNodes_eq_ok_iff {nodes : List ClusterNode} :
    readNodes records = .ok nodes ↔
      List.Forall₂ (fun record node => record.toNode = .ok node) records nodes := by
  induction records generalizing nodes with
  | nil => cases nodes <;> simp [readNodes]
  | cons record rest ih =>
      simp only [readNodes_cons, bind_eq_ok_iff, map_eq_ok_iff, NodeRecord.toNamedNode,
        mapError_eq_ok_iff, ih, List.forall₂_cons_left_iff]
      grind

/-- A list of records fails with the first record that does, under its name. -/
theorem readNodes_eq_error_iff {e : NodeListError} :
    readNodes records = .error e ↔ FirstFails NodeRecord.toNamedNode records e := by
  induction records with
  | nil => simp [readNodes, not_firstFails_nil]
  | cons record rest ih =>
      simp only [readNodes_cons, bind_eq_error_iff, map_eq_error_iff, ih, firstFails_cons,
        exists_and_right]

/-! ## Nodes of a payload -/

/-- The name of an object; a missing one is empty. -/
def nodeName (t : Tree) : String := (textAt? ["metadata", "name"] t).getD ""

/-- The value of a label of an object. -/
def labelAt? (key : String) (t : Tree) : Option String := textAt? ["metadata", "labels", key] t

/-- A node shows what its object holds.  Under the name of each property it reports the quantity
that is written, and nothing where nothing is written. -/
structure Shows (t : Tree) (node : ClusterNode) : Prop where
  name : node.name = nodeName t
  labels : ∀ key, node.labels.get? key = labelAt? key t
  amounts : ∀ field ∈ AmountField.all,
    Option.Rel (fun s q => Quantity.parse s = .ok q) (field.written? t) (node.lookup field.property)

/-- The first written amount of an object that is no quantity is refused with an error. -/
def Refuses (t : Tree) (e : QuantityError) : Prop :=
  ∃ front field back, AmountField.all = front ++ field :: back ∧ (∀ f ∈ front, f.Sound t) ∧
    ∃ s, field.written? t = some s ∧ Quantity.parse s = .error e

/-- Two objects have the same name, the same labels and the same amounts of known resources.
Whatever else they hold may differ. -/
structure Agree (t u : Tree) : Prop where
  name : nodeName t = nodeName u
  labels : ∀ key, labelAt? key t = labelAt? key u
  amounts : ∀ field ∈ AmountField.all, field.written? t = field.written? u

variable {t : Tree}

/-- An amount that is written is a quantity, and the node reports it under the name of its
property. -/
theorem Shows.lookup_of_written {node : ClusterNode} (h : Shows t node) {field : AmountField}
    (hfield : field ∈ AmountField.all) {s : String} (hs : field.written? t = some s) :
    ∃ q, Quantity.parse s = .ok q ∧ node.lookup field.property = some q := by
  have hamount := h.amounts field hfield
  rw [hs] at hamount
  generalize node.lookup field.property = amount at hamount
  cases hamount with
  | some hq => exact ⟨_, hq, rfl⟩

/-- Where no amount is written the node reports none. -/
theorem Shows.lookup_of_missing {node : ClusterNode} (h : Shows t node) {field : AmountField}
    (hfield : field ∈ AmountField.all) (hnone : field.written? t = none) :
    node.lookup field.property = none := by
  have hamount := h.amounts field hfield
  rw [hnone] at hamount
  generalize node.lookup field.property = amount at hamount
  cases hamount with
  | none => rfl

theorem name_ofTree (t : Tree) : (NodeRecord.ofTree t).name = nodeName t := by
  simp only [NodeRecord.ofTree, nodeName, textField?_eq_textAt?, textAt?_getD_null]

/-- The labels of a record are those in the metadata of its object. -/
theorem get?_labels_ofTree (h : node.conforms t) (key : String) :
    (NodeRecord.ofTree t).labels.get? key = labelAt? key t := by
  rw [labelAt?, ← textAt?_getD_null]
  exact get?_textsField? (fun _ hvalue => conforms_of_field?_field? h rfl rfl hvalue) key

/-- The text of an amount is that of the record. -/
theorem get?_amounts_ofTree (h : node.conforms t) (p : NodeProperty) :
    ((NodeRecord.ofTree t).amounts.get p.side).get? (resourceName p.resource) =
      (AmountField.ofProperty p).written? t := by
  rw [AmountField.written?, ← textAt?_getD_null]
  obtain ⟨r, s⟩ := p
  cases s with
  | capacity =>
      exact get?_textsField? (fun _ hvalue => conforms_of_field?_field? h rfl rfl hvalue) _
  | allocatable =>
      exact get?_textsField? (fun _ hvalue => conforms_of_field?_field? h rfl rfl hvalue) _

section Conforming

variable {p : NodeProperty} (h : node.conforms t)
include h

/-- An amount is read when it is missing or a quantity, and then it is that quantity. -/
theorem read_eq_ok_iff {amount : Option Quantity} :
    (NodeRecord.ofTree t).read p = .ok amount ↔
      Option.Rel (fun s q => Quantity.parse s = .ok q) ((AmountField.ofProperty p).written? t)
        amount := by
  rw [NodeRecord.read, readAmount, get?_amounts_ofTree h]
  cases (AmountField.ofProperty p).written? t with
  | none => cases amount <;> simp
  | some s => cases amount <;> simp [map_eq_ok_iff]

/-- An amount fails when it is written and no quantity, with the error of the quantity. -/
theorem read_eq_error_iff {e : QuantityError} :
    (NodeRecord.ofTree t).read p = .error e ↔
      ∃ s, (AmountField.ofProperty p).written? t = some s ∧ Quantity.parse s = .error e := by
  rw [NodeRecord.read, readAmount, get?_amounts_ofTree h]
  cases (AmountField.ofProperty p).written? t with
  | none => simp
  | some s => simp [map_eq_error_iff]

theorem exists_read_eq_ok_iff :
    (∃ amount, (NodeRecord.ofTree t).read p = .ok amount) ↔ (AmountField.ofProperty p).Sound t := by
  simp only [read_eq_ok_iff h, AmountField.Sound]
  cases (AmountField.ofProperty p).written? t with
  | none => exact ⟨fun _ _ h => (nomatch h), fun _ => ⟨none, .none⟩⟩
  | some s =>
      constructor
      · rintro ⟨_, ⟨hq⟩⟩ s' hs
        obtain rfl : s = s' := Option.some.inj hs
        exact ⟨_, hq⟩
      · intro hsound
        obtain ⟨q, hq⟩ := hsound s rfl
        exact ⟨some q, .some hq⟩

/-- An object becomes the node that shows what it holds. -/
theorem toNode_ofTree_eq_ok_iff {node : ClusterNode} :
    (NodeRecord.ofTree t).toNode = .ok node ↔ Shows t node := by
  have hamounts : (∀ p, (NodeRecord.ofTree t).read p = .ok (node.get? p)) ↔
      ∀ field ∈ AmountField.all, Option.Rel (fun s q => Quantity.parse s = .ok q)
        (field.written? t) (node.lookup field.property) := by
    have hlookup : ∀ p, node.lookup (AmountField.ofProperty p).property = node.get? p := by
      intro p
      rw [ClusterNode.lookup, AmountField.ofProperty, NodeProperty.ofName?_name, Option.bind_some]
    simp only [read_eq_ok_iff h, all_eq_map_ofProperty, List.forall_mem_map, hlookup]
    exact ⟨fun hall p _ => hall p, fun hall p => hall p (mem_readOrder p)⟩
  have hlabels : node.labels = (NodeRecord.ofTree t).labels ↔
      ∀ key, node.labels.get? key = labelAt? key t := by
    simp only [← get?_labels_ofTree h]
    exact ⟨fun heq key => heq ▸ rfl, Dictionary.eq_of_get?_eq⟩
  rw [NodeRecord.toNode_eq_ok_iff, hamounts, hlabels, name_ofTree]
  exact ⟨fun ⟨hname, hlabels, hamounts⟩ => ⟨hname, hlabels, hamounts⟩,
    fun hshows => ⟨hshows.name, hshows.labels, hshows.amounts⟩⟩

/-- An object becomes a node when all of its amounts are sound. -/
theorem exists_toNode_ofTree_eq_ok_iff :
    (∃ node, (NodeRecord.ofTree t).toNode = .ok node) ↔
      ∀ field ∈ AmountField.all, field.Sound t := by
  simp only [NodeRecord.exists_toNode_eq_ok_iff, exists_read_eq_ok_iff h, all_eq_map_ofProperty,
    List.forall_mem_map]

/-- An object becomes no node when one of its amounts is refused. -/
theorem toNode_ofTree_eq_error_iff {e : QuantityError} :
    (NodeRecord.ofTree t).toNode = .error e ↔ Refuses t e := by
  rw [NodeRecord.toNode_eq_error_iff, Refuses, all_eq_map_ofProperty]
  constructor
  · rintro ⟨p, herror, front, back, heq, hfront⟩
    refine ⟨front.map .ofProperty, .ofProperty p, back.map .ofProperty, ?_, ?_,
      (read_eq_error_iff h).1 herror⟩
    · rw [heq, List.map_append, List.map_cons]
    · exact List.forall_mem_map.2 fun q hq => (exists_read_eq_ok_iff h).1 (hfront q hq)
  · rintro ⟨_, _, _, heq, hfront, hrefused⟩
    obtain ⟨front, rest, hsplit, rfl, hrest⟩ := List.map_eq_append_iff.1 heq
    obtain ⟨p, back, rfl, rfl, rfl⟩ := List.map_eq_cons_iff.1 hrest
    exact ⟨p, (read_eq_error_iff h).2 hrefused, front, back, hsplit, fun q hq =>
      (exists_read_eq_ok_iff h).2 (List.forall_mem_map.1 hfront q hq)⟩

end Conforming

/-- Objects that agree become the same node, or are refused with the same error. -/
theorem Agree.toNode_eq {u : Tree} (hagree : Agree t u) (ht : node.conforms t)
    (hu : node.conforms u) :
    (NodeRecord.ofTree t).toNode = (NodeRecord.ofTree u).toNode := by
  refine NodeRecord.toNode_congr ?_ (Dictionary.eq_of_get?_eq fun key => ?_) fun p => ?_
  · rw [name_ofTree, name_ofTree, hagree.name]
  · rw [get?_labels_ofTree ht, get?_labels_ofTree hu, hagree.labels]
  · have hfield := hagree.amounts (.ofProperty p) (List.mem_map_of_mem (mem_readOrder p))
    rw [NodeRecord.read, NodeRecord.read, readAmount, readAmount, get?_amounts_ofTree ht,
      get?_amounts_ofTree hu, hfield]

section Conforming

variable {items : List Tree} (h : ∀ t ∈ items, node.conforms t)
include h

theorem exists_readNodes_ofTree_eq_ok_iff :
    (∃ nodes, readNodes (items.map .ofTree) = .ok nodes) ↔
      ∀ t ∈ items, ∀ field ∈ AmountField.all, field.Sound t := by
  rw [exists_eq_ok_iff_of_firstFails fun _ => readNodes_eq_error_iff, List.forall_mem_map]
  simp only [NodeRecord.toNamedNode, mapError_eq_ok_iff]
  exact forall₂_congr fun t ht => exists_toNode_ofTree_eq_ok_iff (h t ht)

/-- A list of objects is read when each becomes a node that shows what the object holds. -/
theorem readNodes_ofTree_eq_ok_iff {nodes : List ClusterNode} :
    readNodes (items.map .ofTree) = .ok nodes ↔ List.Forall₂ Shows items nodes := by
  rw [readNodes_eq_ok_iff, List.forall₂_map_left_iff]
  constructor
  · intro hnodes
    exact ((List.forall₂_and_left items nodes).2 ⟨h, hnodes⟩).imp
      fun _ _ ⟨ht, hnode⟩ => (toNode_ofTree_eq_ok_iff ht).1 hnode
  · intro hshows
    exact ((List.forall₂_and_left items nodes).2 ⟨h, hshows⟩).imp
      fun _ _ ⟨ht, hnode⟩ => (toNode_ofTree_eq_ok_iff ht).2 hnode

/-- A list of objects fails with the first object that is refused, all amounts before it being
sound. -/
theorem readNodes_ofTree_eq_error_iff {e : NodeListError} :
    readNodes (items.map .ofTree) = .error e ↔ ∃ before t after error,
      items = before ++ t :: after ∧
      (∀ u ∈ before, ∀ field ∈ AmountField.all, field.Sound u) ∧
      Refuses t error ∧ e = .quantity (nodeName t) error := by
  rw [readNodes_eq_error_iff, firstFails_map]
  simp only [FirstFails, Function.comp_apply, NodeRecord.toNamedNode, mapError_eq_ok_iff,
    mapError_eq_error_iff, name_ofTree]
  constructor
  · rintro ⟨t, ⟨error, herror, rfl⟩, before, after, rfl, hbefore⟩
    refine ⟨before, t, after, error, rfl, fun u hu => ?_,
      (toNode_ofTree_eq_error_iff (h t (by simp))).1 herror, rfl⟩
    exact (exists_toNode_ofTree_eq_ok_iff (h u (by simp [hu]))).1 (hbefore u hu)
  · rintro ⟨before, t, after, error, rfl, hbefore, hrefuses, rfl⟩
    refine ⟨t, ⟨error, (toNode_ofTree_eq_error_iff (h t (by simp))).2 hrefuses, rfl⟩,
      before, after, rfl, fun u hu => ?_⟩
    exact (exists_toNode_ofTree_eq_ok_iff (h u (by simp [hu]))).2 (hbefore u hu)

/-- Lists of objects that agree one by one are read as the same nodes, or fail with the same
error. -/
theorem readNodes_ofTree_congr {items' : List Tree} (h' : ∀ t ∈ items', node.conforms t)
    (hagree : List.Forall₂ Agree items items') :
    readNodes (items.map .ofTree) = readNodes (items'.map .ofTree) := by
  induction hagree with
  | nil => rfl
  | @cons t u rest rest' hagree _ ih =>
      obtain ⟨ht, hrest⟩ := List.forall_mem_cons.1 h
      obtain ⟨hu, hrest'⟩ := List.forall_mem_cons.1 h'
      rw [List.map_cons, List.map_cons, readNodes_cons, readNodes_cons, ih hrest hrest',
        NodeRecord.toNamedNode, NodeRecord.toNamedNode, hagree.toNode_eq ht hu, name_ofTree,
        name_ofTree, hagree.name]

end Conforming

/-- **What is read of a list of nodes.**  All nodes are read when each amount that one of the eight
fields of an object holds is a quantity, and then there is one node for each object, in the same
order, that shows what the object holds.  Otherwise the first object that refuses an amount is
reported with the first amount that it refuses.  Lists of objects that agree are read alike,
whatever amounts of other resources they hold. -/
theorem decodeNodes_reads {payload : Bytes} {items : List Tree}
    (h : objects? .node payload = some items) :
    ((∃ nodes, decodeNodes payload = .ok nodes) ↔
      ∀ t ∈ items, ∀ field ∈ AmountField.all, field.Sound t) ∧
    (∀ nodes, decodeNodes payload = .ok nodes ↔ List.Forall₂ Shows items nodes) ∧
    (∀ e, decodeNodes payload = .error e ↔ ∃ before t after error,
      items = before ++ t :: after ∧
      (∀ u ∈ before, ∀ field ∈ AmountField.all, field.Sound u) ∧
      Refuses t error ∧ e = .quantity (nodeName t) error) ∧
    ∀ payload' items', objects? .node payload' = some items' → List.Forall₂ Agree items items' →
      decodeNodes payload' = decodeNodes payload := by
  have hdecode : ∀ payload items, objects? .node payload = some items →
      decodeNodes payload = readNodes (items.map .ofTree) := by
    intro payload items h
    rw [decodeNodes, h]
  have hconforms := conforms_of_objects? h
  rw [hdecode payload items h]
  refine ⟨exists_readNodes_ofTree_eq_ok_iff hconforms, fun _ =>
    readNodes_ofTree_eq_ok_iff hconforms, fun _ => readNodes_ofTree_eq_error_iff hconforms, ?_⟩
  intro payload' items' h' hagree
  rw [hdecode payload' items' h']
  exact (readNodes_ofTree_congr hconforms (conforms_of_objects? h') hagree).symm

/-- A node with four processors and with an amount of a resource that is not read. -/
def gpuPayload : Bytes :=
  ("[\x7b\"metadata\": \x7b\"name\": \"a\"\x7d, \"status\": " ++
    "\x7b\"capacity\": \x7b\"cpu\": \"4\", \"gpu\": \"many\"\x7d\x7d\x7d]").toUTF8.toList

/-- A node of which nothing is known, and one that writes three amounts which are no quantities. -/
def lotsPayload : Bytes :=
  ("[\x7b\x7d, \x7b\"metadata\": \x7b\"name\": \"b\"\x7d, \"status\": " ++
    "\x7b\"allocatable\": \x7b\"cpu\": \"few\"\x7d, " ++
    "\"capacity\": \x7b\"pods\": \"none\", \"memory\": \"lots\"\x7d\x7d\x7d]").toUTF8.toList

/-- The name and the written amounts of an object. -/
def view (t : Tree) : String × List (Option String) :=
  (nodeName t, AmountField.all.map (·.written? t))

/-- Amounts of other resources are not looked at, and of three amounts that are no quantities the
first is reported, under the name of its node. -/
theorem decodeNodes_reads_lots :
    (∃ node, decodeNodes gpuPayload = .ok [node] ∧
      node.lookup "cpuCapacity" = some (.clamp 4000000000 .decimalSI) ∧
      node.lookup "cpuAllocatable" = none) ∧
    decodeNodes lotsPayload = .error (.quantity "b" (.invalidNumber "lots")) := by
  have hfour : Quantity.parse "4" = .ok (.clamp 4000000000 .decimalSI) := rfl
  constructor
  · have hview : (objects? .node gpuPayload).map (·.map view) =
        some [("a", [some "4", none, none, none, none, none, none, none])] := by decide +kernel
    obtain ⟨items, hitems, hview⟩ := Option.map_eq_some_iff.1 hview
    obtain ⟨t, rfl, hview⟩ := List.map_eq_singleton_iff.1 hview
    simp only [view, AmountField.all, List.map_cons, List.map_nil, Prod.mk.injEq, List.cons.injEq,
      and_true] at hview
    obtain ⟨-, hcpu, hrest⟩ := hview
    have hsound : ∀ field ∈ AmountField.all, field.Sound t := by
      simp [AmountField.all, AmountField.Sound, hcpu, hrest, hfour]
    obtain ⟨hreads, hshows, -⟩ := decodeNodes_reads hitems
    obtain ⟨nodes, hnodes⟩ := hreads.2 (List.forall_mem_singleton.2 hsound)
    obtain ⟨node, none, hnode, hnone, rfl⟩ := List.forall₂_cons_left_iff.1 ((hshows nodes).1 hnodes)
    obtain rfl := List.forall₂_nil_left_iff.1 hnone
    obtain ⟨q, hq, hlookup⟩ := hnode.lookup_of_written
      (List.mem_cons_self : ⟨"cpuCapacity", "capacity", "cpu"⟩ ∈ AmountField.all) hcpu
    obtain rfl := Except.ok.inj (hfour.symm.trans hq)
    exact ⟨node, hnodes, hlookup, hnode.lookup_of_missing
      (by simp [AmountField.all] : ⟨"cpuAllocatable", "allocatable", "cpu"⟩ ∈ AmountField.all)
      hrest.2.2.2.1⟩
  · have hview : (objects? .node lotsPayload).map (·.map view) =
        some [("", [none, none, none, none, none, none, none, none]),
          ("b", [none, some "lots", some "none", none, some "few", none, none, none])] := by
      decide +kernel
    obtain ⟨items, hitems, hview⟩ := Option.map_eq_some_iff.1 hview
    obtain ⟨t, rest, rfl, hempty, hview⟩ := List.map_eq_cons_iff.1 hview
    obtain ⟨u, rfl, hview⟩ := List.map_eq_singleton_iff.1 hview
    simp only [view, AmountField.all, List.map_cons, List.map_nil, Prod.mk.injEq, List.cons.injEq,
      and_true] at hempty hview
    have hsound : ∀ field ∈ AmountField.all, field.Sound t := by
      simp [AmountField.all, AmountField.Sound, hempty]
    have hrefuses : Refuses u (.invalidNumber "lots") := by
      refine ⟨[⟨"cpuCapacity", "capacity", "cpu"⟩], ⟨"memoryCapacity", "capacity", "memory"⟩, _, rfl,
        ?_, "lots", hview.2.2.1, rfl⟩
      simp [AmountField.Sound, hview.2.1]
    refine ((decodeNodes_reads hitems).2.2.1 _).2 ⟨[t], u, [], _, rfl,
      List.forall_mem_singleton.2 hsound, hrefuses, ?_⟩
    rw [hview.1]

end Cluster
end NodeFit
