import NodeFit.Command.Report
import NodeFit.Node.Json
import NodeFit.Proofs.Cluster.Payload
import NodeFit.Proofs.Node.Same
import NodeFit.Proofs.Quantity.RoundTrip
import NodeFit.Proofs.Tree.Filled

/-!
# NodeFit.Proofs.Node.RoundTrip

Nodes that were collected can be listed as JSON and read back.

An amount travels as its text.  Amounts of collected nodes were read from texts themselves, so
that theirs can be read again (`Quantity.parse_text_reread`); it may then be of another family,
but its value is the same.  Field by field this gives back each node (`ClusterNode.decode_view`),
and the list (`decodeList_nodes`).

So the node that is read back is the one that was listed up to the families of its amounts
(`ClusterNode.same_reread`), and by `NodeFit.Proofs.Node.Same` nothing that looks at nodes tells
the two apart.  It does not matter in which order a reader takes the fields of an object (`View`).
-/

namespace NodeFit

open NodeFit.Tree
open Text (Sign)

/-! ## Quantities -/

namespace Quantity

/-- The quantity that the text of a quantity is read as.  The least quantity, whose text cannot
be read, stays what it is. -/
def reread (q : Quantity) : Quantity := (parse q.text).toOption.getD q

/-- Reading a quantity from its text keeps the amount. -/
theorem reread_nano (q : Quantity) : q.reread.nano = q.nano := by
  rw [reread]
  by_cases hq : q.nano = -limit
  · rw [parse_text_of_eq hq]
    rfl
  · obtain ⟨r, hparse, hnano, -⟩ := exists_parse_text hq
    rw [hparse]
    exact hnano

/-- No text is read as the least quantity. -/
theorem nano_ne_of_parse {s : String} {q : Quantity} (h : parse s = .ok q) : q.nano ≠ -limit := by
  obtain ⟨w, hw⟩ := exists_written_of_parse h
  have hs : s = String.ofList w.chars := by rw [hw, String.ofList_toList]
  rw [hs] at h
  obtain ⟨scale, m, hsuffix, hm, rfl⟩ := exists_scale_of_parse h
  obtain ⟨hrange, rfl⟩ := (magnitude?_eq_some_iff (Scale.ofSuffix?_eq_some_iff.1 hsuffix)).1 hm
  have hnonneg := ceil_value_nonneg scale w.mantissa w.places
  have hlt := hrange.ceil_lt
  rw [ofMagnitude_nano hnonneg hlt, Sign.apply]
  split <;> omega

/-- **What was read from a text can be read from its own text.** -/
theorem parse_text_reread {s : String} {q : Quantity} (h : parse s = .ok q) :
    parse q.text = .ok q.reread := by
  obtain ⟨r, hparse, -⟩ := exists_parse_text (nano_ne_of_parse h)
  rw [reread, hparse]
  rfl

/-- An amount, if there is one, was read from a text. -/
def Legible (amount : Option Quantity) : Prop := ∀ q, amount = some q → ∃ s, parse s = .ok q

end Quantity

variable {view : Json → Tree}

/-- A quantity that was read from a text is read back from its own text. -/
theorem Quantity.decode_view (hview : View view) {s : String} {q : Quantity}
    (h : parse s = .ok q) : (decode (view q.toJson)).Gives 0 q.reread := by
  have hread : decode (view q.toJson) = Decoded.require "a quantity" (parse q.text).toOption := by
    rw [decode, toJson, hview.text]
    rfl
  rw [hread, parse_text_reread h]
  exact Decoded.gives_pure _

/-- An amount is read back, or is missing as before. -/
theorem Quantity.decodeOption_view (hview : View view) {amount : Option Quantity}
    (h : Legible amount) :
    (decodeOption decode (view (amount.elim .null toJson))).Gives 0 (amount.map reread) := by
  cases amount with
  | none =>
      rw [Option.elim_none, hview.null]
      exact Decoded.gives_pure none
  | some q =>
      obtain ⟨s, hs⟩ := h q rfl
      have hnull : view q.toJson ≠ null := by
        rw [toJson, hview.text]
        exact Tree.noConfusion
      rw [Option.elim_some, decodeOption_of_ne_null hnull]
      exact (decode_view hview hs).map some

/-! ## Amounts of a side -/

namespace Amounts

/-- The fields of the amounts of a side. -/
def fields : List (RecordField Amounts) :=
  let amount := decodeOption Quantity.decode
  [.of "cpu" amount fun q a => { a with cpu := q },
    .of "memory" amount fun q a => { a with memory := q },
    .of "pods" amount fun q a => { a with pods := q },
    .of "ephemeralStorage" amount fun q a => { a with ephemeralStorage := q }]

/-- What is no list is read as a record. -/
theorem decode_of_not_list {t : Tree} (h : ∀ values, t ≠ list values) :
    decode t = decodeRecord .json fields .none t >>= fun amounts => pure amounts := by
  cases t with
  | list values => exact absurd rfl (h values)
  | _ => rfl

theorem orderly_fields : Orderly fields where
  names := by simp [fields]
  commutes := by simp [fields]

/-- Amounts that are read from their texts. -/
def reread (amounts : Amounts) : Amounts :=
  PerResource.ofFn fun r => (amounts.get r).map Quantity.reread

/-- The amounts of a side are read back, each from its text. -/
theorem decode_view (hview : View view) {amounts : Amounts}
    (h : ∀ r, Quantity.Legible (amounts.get r)) :
    (decode (view amounts.toJson)).Gives 0 amounts.reread := by
  have hamount (r : Resource) := Quantity.decodeOption_view hview (h r)
  have hfills : Fills fields
      ([("cpu", amounts.cpu.elim Json.null Quantity.toJson),
        ("memory", amounts.memory.elim Json.null Quantity.toJson),
        ("pods", amounts.pods.elim Json.null Quantity.toJson),
        ("ephemeralStorage", amounts.ephemeralStorage.elim Json.null Quantity.toJson)].map
          fun e => (e.1, view e.2)) .none amounts.reread :=
    .give ((hamount .cpu).map _) <| .give ((hamount .memory).map _) <|
      .give ((hamount .pods).map _) <| .give ((hamount .ephemeralStorage).map _) .nil
  have hlist : ∀ values, view amounts.toJson ≠ list values := by
    obtain ⟨entries, htree, -⟩ :=
      hview.object (Dictionary.distinctKeys_map_iff.1 (hfills.distinctKeys orderly_fields))
    intro values h
    exact Tree.noConfusion (htree.symm.trans h)
  rw [decode_of_not_list hlist]
  exact (hfills.decodeRecord_view hview orderly_fields).bind_pure (Decoded.gives_pure _)

end Amounts

/-! ## Nodes -/

namespace ClusterNode

/-- The fields of a node. -/
def fields : List (RecordField Parts) :=
  [.of "name" (decodeText .json) fun s p => { p with name := some s },
    .of "labels" (decodeTexts .json) fun d p => { p with labels := some d },
    .of "capacity" Amounts.decode fun a p => { p with capacity := some a },
    .of "allocatable" Amounts.decode fun a p => { p with allocatable := some a }]

theorem orderly_fields : Orderly fields where
  names := by simp [fields]
  commutes := by simp [fields]

/-- A node whose amounts are read from their texts. -/
def reread (node : ClusterNode) : ClusterNode :=
  { node with amounts := ⟨node.amounts.capacity.reread, node.amounts.allocatable.reread⟩ }

/-- The node that is read back reports its amounts as they are read from their texts. -/
theorem get?_reread (node : ClusterNode) (p : NodeProperty) :
    node.reread.get? p = (node.get? p).map Quantity.reread := by
  obtain ⟨r, s⟩ := p
  cases s with
  | capacity => exact PerResource.get_ofFn (fun r => (node.amounts.capacity.get r).map _) r
  | allocatable => exact PerResource.get_ofFn (fun r => (node.amounts.allocatable.get r).map _) r

/-- The node that is read back differs from the one that was listed in suffix families only. -/
theorem same_reread (node : ClusterNode) : node.Same node.reread where
  name := rfl
  labels := rfl
  amounts p := by
    rw [get?_reread, Option.map_map]
    exact Option.map_congr fun q _ => q.reread_nano.symm

/-- **A node is read back.** -/
theorem decode_view (hview : View view) {node : ClusterNode}
    (h : ∀ p, Quantity.Legible (node.get? p)) :
    (decode (view node.toJson)).Gives 0 node.reread := by
  have hname : ((view (.text node.name)).decodeText .json).Gives 0 node.name := by
    rw [hview.text]
    exact Decoded.gives_pure _
  have hfills : Fills fields
      ([("name", .text node.name), ("labels", .ofTexts node.labels),
        ("capacity", node.amounts.capacity.toJson),
        ("allocatable", node.amounts.allocatable.toJson)].map fun e => (e.1, view e.2))
      ⟨none, none, none, none⟩
      ⟨some node.name, some node.labels, some node.amounts.capacity.reread,
        some node.amounts.allocatable.reread⟩ :=
    .give (hname.map _) <| .give ((hview.decodeTexts_ofTexts node.labels).map _) <|
      .give ((Amounts.decode_view hview fun r => h ⟨r, .capacity⟩).map _) <|
        .give ((Amounts.decode_view hview fun r => h ⟨r, .allocatable⟩).map _) .nil
  exact (hfills.decodeRecord_view hview orderly_fields).bind_pure (Decoded.gives_pure node.reread)

end ClusterNode

/-! ## Lists of nodes -/

/-- The amounts of collected nodes were read from texts. -/
theorem Cluster.legible_of_decodeNodes {payload : Bytes} {nodes : List ClusterNode}
    (h : decodeNodes payload = .ok nodes) {node : ClusterNode} (hnode : node ∈ nodes)
    (p : NodeProperty) : Quantity.Legible (node.get? p) := by
  unfold decodeNodes at h
  split at h
  · contradiction
  · obtain ⟨record, -, hrecord⟩ :=
      Dictionary.exists_mem_of_forall₂ (readNodes_eq_ok_iff.1 h) hnode
    obtain ⟨-, -, hread⟩ := NodeRecord.toNode_eq_ok_iff.1 hrecord
    intro q hq
    have hamount := hread p
    rw [hq, NodeRecord.read, readAmount] at hamount
    split at hamount
    · simp at hamount
    · obtain ⟨r, hr, hrq⟩ := map_eq_ok_iff.1 hamount
      exact ⟨_, hr.trans (congrArg _ (Option.some.inj hrq))⟩

/-- The nodes of a list are read back one by one, up to suffix families. -/
theorem forall₂_same_reread (nodes : List ClusterNode) :
    List.Forall₂ ClusterNode.Same nodes (nodes.map ClusterNode.reread) := by
  rw [List.forall₂_map_right_iff, List.forall₂_same]
  exact fun node _ => node.same_reread

/-- A list of nodes is read back. -/
theorem decodeList_nodes (hview : View view) {nodes : List ClusterNode}
    (h : ∀ node ∈ nodes, ∀ p, Quantity.Legible (node.get? p)) :
    decodeList .json ClusterNode.decode (view (Report.nodes nodes).toJson) =
      ⟨[], .ok (nodes.map ClusterNode.reread)⟩ :=
  Decoded.gives_zero_iff.1 <| hview.decodeList_map fun node hnode =>
    ClusterNode.decode_view hview (h node hnode)

/-- **Collected nodes can be listed and read back**, in whatever order a reader takes the fields
of an object.  The list that is read has the same nodes, with amounts of the same value.  Every
filter judges each node as before and keeps the same nodes or fails with the same error, and every
conditional has the same truth value or error over all nodes and over those that are kept.  The
family of an amount may have changed. -/
theorem decodeNodes_read_back {payload : Bytes} {nodes : List ClusterNode}
    (h : Cluster.decodeNodes payload = .ok nodes) (hview : View view) :
    (∃ read, decodeList .json ClusterNode.decode (view (Report.nodes nodes).toJson) =
        ⟨[], .ok read⟩ ∧
      List.Forall₂ ClusterNode.Same nodes read ∧
      (∀ filter, List.Forall₂ (fun node other : ClusterNode =>
        node.passes filter = other.passes filter) nodes read) ∧
      (∀ text, evaluateConditional text nodes = evaluateConditional text read) ∧
      ∀ filter,
        (∃ e, matchingNodes filter nodes = .error e ∧ matchingNodes filter read = .error e) ∨
        ∃ kept kept', matchingNodes filter nodes = .ok kept ∧
          matchingNodes filter read = .ok kept' ∧ List.Forall₂ ClusterNode.Same kept kept' ∧
          ∀ text, evaluateConditional text kept = evaluateConditional text kept') ∧
    ∃ (s : String) (q r : Quantity), Quantity.parse s = .ok q ∧ Quantity.parse q.text = .ok r ∧
      q.format ≠ r.format := by
  have hsame := forall₂_same_reread nodes
  have hlegible : ∀ node ∈ nodes, ∀ p, Quantity.Legible (node.get? p) :=
    fun _ hnode => Cluster.legible_of_decodeNodes h hnode
  refine ⟨⟨_, decodeList_nodes hview hlegible, hsame, ?_, evaluateConditional_congr_same hsame,
    ?_⟩, ?_⟩
  · exact fun filter => hsame.imp fun _ _ hnode => hnode.passes_congr filter
  · intro filter
    rcases matchingNodes_congr hsame filter with herror | ⟨kept, kept', hkept, hkept', hboth⟩
    · exact .inl herror
    · exact .inr ⟨kept, kept', hkept, hkept', hboth, evaluateConditional_congr_same hboth⟩
  · have hq : Quantity.parse "0.1Gi" = .ok (.clamp 107374182400000000 .binarySI) := by
      decide +kernel
    refine ⟨_, _, _, hq, Quantity.parse_text_reread hq, ?_⟩
    decide +kernel

/-- A node with a label and a fraction of a gibibyte. -/
def fractionPayload : Bytes :=
  ("[\x7b\"metadata\": \x7b\"name\": \"a\", \"labels\": \x7b\"zone\": \"east\"\x7d\x7d, " ++
    "\"status\": \x7b\"capacity\": \x7b\"memory\": \"0.1Gi\"\x7d\x7d\x7d]").toUTF8.toList

/-- The node with a label and a fraction of a gibibyte. -/
def fractionNode : ClusterNode :=
  ((ClusterNode.ofName "a").withLabel "zone" "east").withAmount ⟨.memory, .capacity⟩
    (.clamp 107374182400000000 .binarySI)

/-- A binary amount that is listed in thousandths and read back in the decimal family, whether a
reader takes the fields as they come or in ascending order. -/
theorem decodeNodes_read_back_fraction :
    Cluster.decodeNodes fractionPayload = .ok [fractionNode] ∧ View Tree.ofJson ∧ View Json.tree ∧
    ∀ view ∈ [Tree.ofJson, Json.tree], ∃ read,
      decodeList .json ClusterNode.decode (view (Report.nodes [fractionNode]).toJson) =
        ⟨[], .ok read⟩ ∧
      List.Forall₂ ClusterNode.Same [fractionNode] read ∧
      read.map (fun node => (node.get? ⟨.memory, .capacity⟩).map Quantity.format) =
        [some .decimalSI] := by
  have hnodes : Cluster.decodeNodes fractionPayload = .ok [fractionNode] := by
    have hsome : (Cluster.decodeNodes fractionPayload).toOption = some [fractionNode] := by
      decide +kernel
    exact toOption_eq_some_iff.1 hsome
  refine ⟨hnodes, view_ofJson, view_tree, fun view hmem => ?_⟩
  have hview : View view := by
    rcases List.mem_pair.1 hmem with rfl | rfl
    · exact view_ofJson
    · exact view_tree
  obtain ⟨⟨read, hread, hsame, -⟩, -⟩ := decodeNodes_read_back hnodes hview
  refine ⟨read, hread, hsame, ?_⟩
  have hlegible : ∀ node ∈ [fractionNode], ∀ p, Quantity.Legible (node.get? p) :=
    fun _ hnode => Cluster.legible_of_decodeNodes hnodes hnode
  rw [decodeList_nodes hview hlegible, Decoded.mk.injEq, Except.ok.injEq] at hread
  rw [← hread.2]
  decide +kernel

end NodeFit
