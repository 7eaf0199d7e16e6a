import NodeFit.Command
import NodeFit.Proofs.Analysis

/-!
# NodeFit.Proofs.Command.Eval

What trying a conditional tells about a check.

A label selector leaves out the nodes that lack a label where the filter of a check gives
up.  As long as every node carries all labels the two choose the same nodes, and the
answer to a conditional is the result of the check that passes where it holds
(`tryConditional_predicts`).

* `LabelSelector.select_eq` and `Filter.meets_ofLabels_iff` describe the two by the same
  predicate, `ClusterNode.Carries`.
* One node without a label is enough to tell them apart: the check ends with an error
  that names the label (`matchingNodes_ofLabels_of_not_carries`), the selector goes on
  with the other nodes.
-/

namespace NodeFit

/-- The node has every one of some labels, with its value. -/
def ClusterNode.Carries (node : ClusterNode) (labels : Dictionary String) : Prop :=
  ∀ key value, labels.get? key = some value → node.labels.get? key = some value

/-- The filter that asks for some labels and for nothing else. -/
def Filter.ofLabels (labels : Dictionary String) : Filter :=
  { Filter.empty with selector := some ⟨labels⟩ }

/-- The criteria that ask for some labels and say pass where a conditional holds. -/
def Criteria.passWhere (labels : Dictionary String) (body : OutcomeBody) : Criteria :=
  ⟨some (.ofLabels labels), [⟨.pass, body⟩]⟩

variable {labels : Dictionary String} {node : ClusterNode} {nodes : List ClusterNode}

/-! ## The selector -/

/-- Carrying labels is a matter of looking up each of them. -/
theorem ClusterNode.carries_iff :
    node.Carries labels ↔ ∀ label ∈ labels.toList, node.labels.get? label.1 = some label.2 := by
  simp only [ClusterNode.Carries, Dictionary.get?_eq_some_iff (d := labels), Prod.forall]

instance (node : ClusterNode) (labels : Dictionary String) : Decidable (node.Carries labels) :=
  decidable_of_iff _ ClusterNode.carries_iff.symm

/-- A selector admits the nodes that carry its labels. -/
theorem LabelSelector.admits_iff :
    (LabelSelector.mk labels).admits node = true ↔ node.Carries labels := by
  rw [ClusterNode.carries_iff]
  simp only [LabelSelector.admits, List.all_eq_true, ClusterNode.hasLabel, beq_iff_eq]

/-- A selector leaves the nodes that carry its labels, in their order. -/
theorem LabelSelector.select_eq :
    (LabelSelector.mk labels).select nodes = nodes.filter fun node => node.Carries labels :=
  List.filter_congr fun node _ => Bool.eq_iff_iff.2 (by rw [admits_iff, decide_eq_true_iff])

/-! ## The filter -/

theorem Filter.bound?_ofLabels (p : NodeProperty) : (Filter.ofLabels labels).bound? p = none := by
  cases p with
  | mk resource side => cases resource <;> cases side <;> rfl

/-- A node meets a filter of labels when it carries them all. -/
theorem Filter.meets_ofLabels_iff : (Filter.ofLabels labels).Meets node ↔ node.Carries labels := by
  constructor
  · intro h
    exact h.labels _ rfl
  · intro h
    refine ⟨fun selector hselector => ?_, fun p written hbound => ?_⟩
    · obtain rfl := Option.some.inj hselector
      exact h
    · rw [Filter.bound?_ofLabels] at hbound
      contradiction

/-- A node that does not carry all labels is an error that names one of those it lacks. -/
theorem ClusterNode.passes_ofLabels_of_not_carries (h : ¬node.Carries labels) :
    ∃ key value, labels.get? key = some value ∧ node.labels.get? key ≠ some value ∧
      node.passes (some (.ofLabels labels)) = .error (.label key) := by
  have hmissing : ¬∀ label ∈ (Filter.ofLabels labels).labels, node.hasLabel label = true := by
    intro hall
    exact h (Filter.forall_hasLabel_iff.1 hall _ rfl)
  cases hfind : (Filter.ofLabels labels).labels.find? fun label => !node.hasLabel label with
  | none => exact absurd (by simpa using List.find?_eq_none.1 hfind) hmissing
  | some label =>
      have hmem : label ∈ labels.toList := List.mem_of_find?_eq_some hfind
      have hlacks : node.labels.get? label.1 ≠ some label.2 := by
        simpa [ClusterNode.hasLabel] using List.find?_some hfind
      refine ⟨label.1, label.2, Dictionary.get?_eq_some_iff.2 hmem, hlacks, ?_⟩
      simp only [ClusterNode.passes, Filter.accepts, hfind]

/-- Where every node carries all labels, the filter leaves out none. -/
theorem matchingNodes_ofLabels_of_carries (h : ∀ node ∈ nodes, node.Carries labels) :
    matchingNodes (some (.ofLabels labels)) nodes = .ok nodes := by
  have hmeets (node : ClusterNode) (hnode : node ∈ nodes) :
      node.Meets (some (.ofLabels labels)) := by
    intro f hf
    obtain rfl := Option.some.inj hf
    exact Filter.meets_ofLabels_iff.2 (h node hnode)
  refine matchingNodes_eq_ok_iff.2
    ⟨fun node hnode => ⟨true, ClusterNode.passes_eq_ok_true_iff.2 (hmeets node hnode)⟩, ?_⟩
  exact (List.filter_eq_self.2 fun node hnode => decide_eq_true (hmeets node hnode)).symm

/-- One node that lacks a label is enough for an error, which names a label. -/
theorem matchingNodes_ofLabels_of_not_carries (h : ∃ node ∈ nodes, ¬node.Carries labels) :
    ∃ key value, labels.get? key = some value ∧
      (∃ node ∈ nodes, node.labels.get? key ≠ some value) ∧
      matchingNodes (some (.ofLabels labels)) nodes = .error (.label key) := by
  induction nodes with
  | nil => simp at h
  | cons node rest ih =>
      by_cases hnode : node.Carries labels
      · have hrest : ∃ node ∈ rest, ¬node.Carries labels := by
          simpa [hnode] using h
        obtain ⟨key, value, hvalue, ⟨other, hother, hlacks⟩, hmatching⟩ := ih hrest
        refine ⟨key, value, hvalue, ⟨other, List.mem_cons_of_mem _ hother, hlacks⟩, ?_⟩
        have hpasses : node.passes (some (.ofLabels labels)) = .ok true := by
          simpa [ClusterNode.passes] using
            Filter.accepts_eq_ok_true_iff.2 (Filter.meets_ofLabels_iff.2 hnode)
        rw [matchingNodes, hpasses, hmatching]
        rfl
      · obtain ⟨key, value, hvalue, hlacks, hpasses⟩ :=
          ClusterNode.passes_ofLabels_of_not_carries hnode
        refine ⟨key, value, hvalue, ⟨node, List.mem_cons_self, hlacks⟩, ?_⟩
        rw [matchingNodes, hpasses]
        rfl

/-! ## The check -/

variable {check : NodeCheck} {store : Store} {payload : Bytes}

/-- A check that depends on no deployment filters the nodes and applies its outcomes. -/
theorem analyze_of_ungated (hungated : check.gating.deployment = none)
    (hfetch : store.fetch nodesKey = .ok payload)
    (hdecode : Cluster.decodeNodes payload = .ok nodes) :
    analyze check store =
      (matchingNodes check.own.filter nodes).mapError .filter >>= fun matching =>
        (applyOutcomes (.ofCheckName check.name) check.own.outcomes matching).mapError
          .conditional := by
  rw [analyze, Store.read, hfetch, NodeCheck.resolveGate, hungated]
  change check.own.judge payload _ = _
  rw [Criteria.judge, hdecode]
  rfl

/-- A single outcome changes the result if it holds. -/
theorem applyOutcomes_single (r : AnalysisResult) (o : Outcome) (nodes : List ClusterNode) :
    applyOutcomes r [o] nodes =
      (o.holds nodes).map fun holds => if holds then r.withOutcome o else r := by
  rw [applyOutcomes, selectOutcome]
  cases o.holds nodes with
  | error e => rfl
  | ok holds => cases holds <;> rfl

/-- **Trying a conditional predicts what a check does** whose one outcome passes where the
conditional holds, over nodes that all carry the labels that the check asks for: the two
agree on truth, falsehood and every error.  Where a node lacks a label, the selector leaves
out exactly the nodes that do, and the check fails naming a label. -/
theorem tryConditional_predicts (check : NodeCheck) {labels : Dictionary String}
    {body : OutcomeBody} {store : Store} {payload : Bytes} {nodes : List ClusterNode}
    (hungated : check.gating.deployment = none) (hown : check.own = .passWhere labels body)
    (hfetch : store.fetch nodesKey = .ok payload)
    (hdecode : Cluster.decodeNodes payload = .ok nodes) :
    ((∀ node ∈ nodes, node.Carries labels) →
      (LabelSelector.mk labels).select nodes = nodes ∧
      ((∃ actual, Command.tryConditional body.condition ⟨labels⟩ nodes =
          .ok (.eval body.condition nodes.length nodes.length actual true)) ↔
        ∃ r, analyze check store = .ok r ∧ r.verdict = some .pass) ∧
      ((∃ actual, Command.tryConditional body.condition ⟨labels⟩ nodes =
          .ok (.eval body.condition nodes.length nodes.length actual false)) ↔
        ∃ r, analyze check store = .ok r ∧ r.isInconclusive = true) ∧
      ∀ e, Command.tryConditional body.condition ⟨labels⟩ nodes = .error e ↔
        analyze check store = .error (.conditional e)) ∧
    ((∃ node ∈ nodes, ¬node.Carries labels) →
      (LabelSelector.mk labels).select nodes = (nodes.filter fun node => node.Carries labels) ∧
      ∃ key value, labels.get? key = some value ∧
        (∃ node ∈ nodes, node.labels.get? key ≠ some value) ∧
        analyze check store = .error (.filter (.label key))) := by
  have hanalyze := analyze_of_ungated hungated hfetch hdecode
  rw [hown] at hanalyze
  constructor
  · intro hall
    have hselect : (LabelSelector.mk labels).select nodes = nodes := by
      rw [LabelSelector.select_eq, List.filter_eq_self]
      exact fun node hnode => decide_eq_true (hall node hnode)
    have hmatching := matchingNodes_ofLabels_of_carries hall
    have hcheck : analyze check store =
        ((evaluateConditional body.condition nodes).map fun holds =>
          if holds then (AnalysisResult.ofCheckName check.name).withOutcome ⟨.pass, body⟩
          else .ofCheckName check.name).mapError .conditional := by
      rw [hanalyze, Criteria.passWhere, hmatching]
      exact congrArg (Except.mapError AnalyzeError.conditional) (applyOutcomes_single _ _ _)
    refine ⟨hselect, ?_⟩
    rw [hcheck, Command.tryConditional, hselect]
    -- Both sides are functions of the same truth value or error.
    cases evaluateConditional body.condition nodes with
    | error e => simp [Except.map, mapError_error]
    | ok holds =>
        cases holds <;>
          simp [Except.map, mapError_ok, AnalysisResult.withOutcome, AnalysisResult.ofCheckName,
            AnalysisResult.isInconclusive]
  · intro hsome
    obtain ⟨key, value, hvalue, hlacks, hmatching⟩ := matchingNodes_ofLabels_of_not_carries hsome
    refine ⟨LabelSelector.select_eq, key, value, hvalue, hlacks, ?_⟩
    rw [hanalyze, Criteria.passWhere, hmatching]
    rfl

/-- The check that passes where there are two nodes, all with some labels. -/
def pairCheck (labels : Dictionary String) : NodeCheck where
  name := "Pair"
  own := .passWhere labels ⟨"count() == 2", "two nodes", none⟩
  gating := .none

/-- The label that the nodes of a pair carry. -/
def workerLabels : Dictionary String := .ofList [("role", "worker")]

/-- A node that carries the label. -/
def workerNode : ClusterNode := { ClusterNode.ofName "" with labels := workerLabels }

/-- Two nodes that carry the label. -/
def workersPayload : Bytes :=
  ("[\x7b\"metadata\": \x7b\"labels\": \x7b\"role\": \"worker\"\x7d\x7d\x7d, " ++
    "\x7b\"metadata\": \x7b\"labels\": \x7b\"role\": \"worker\"\x7d\x7d\x7d]").toUTF8.toList

/-- The two nodes, and no deployment. -/
def twoWorkers : Store where
  fetch key :=
    if key = nodesKey then .ok workersPayload else .error ⟨key, .notCollected⟩

/-- Over two nodes with the label the check passes as the conditional says, and over two without
it the check is an error that the conditional does not report. -/
theorem tryConditional_predicts_pair :
    Cluster.decodeNodes workersPayload = .ok [workerNode, workerNode] ∧
    (∀ node ∈ [workerNode, workerNode], node.Carries workerLabels) ∧
    (∃ r, analyze (pairCheck workerLabels) twoWorkers = .ok r ∧ r.verdict = some .pass) ∧
    Cluster.decodeNodes "[{}, {}]".toUTF8.toList = .ok [.ofName "", .ofName ""] ∧
    ∃ key value, workerLabels.get? key = some value ∧
      analyze (pairCheck workerLabels) twoNodes = .error (.filter (.label key)) := by
  have hfetch : twoNodes.fetch nodesKey = .ok "[{}, {}]".toUTF8.toList := by
    simp [twoNodes]
  have hdecode : Cluster.decodeNodes "[{}, {}]".toUTF8.toList =
      .ok [.ofName "", .ofName ""] :=
    toOption_eq_some_iff.1 (by decide +kernel)
  have hworkers : Cluster.decodeNodes workersPayload = .ok [workerNode, workerNode] :=
    toOption_eq_some_iff.1 (by decide +kernel)
  have hcarry : ∀ node ∈ [workerNode, workerNode], node.Carries workerLabels := by decide
  have hfetch' : twoWorkers.fetch nodesKey = .ok workersPayload := by
    simp [twoWorkers]
  have hlabelled := tryConditional_predicts (pairCheck workerLabels) rfl rfl hfetch' hworkers
  have hbare := tryConditional_predicts (pairCheck workerLabels) rfl rfl hfetch hdecode
  refine ⟨hworkers, hcarry, ?_, hdecode, ?_⟩
  · obtain ⟨hselect, hpass, -⟩ := hlabelled.1 hcarry
    have hholds : evaluateConditional "count() == 2" [workerNode, workerNode] = .ok true :=
      toOption_eq_some_iff.1 (by decide +kernel)
    refine hpass.1 ⟨(actualOf? "count() == 2" [workerNode, workerNode]).map AggregateValue.text, ?_⟩
    rw [Command.tryConditional, hselect, hholds]
    rfl
  · obtain ⟨-, key, value, hvalue, -, herror⟩ := hbare.2 ⟨.ofName "", by simp, by decide⟩
    exact ⟨key, value, hvalue, herror⟩

end NodeFit
