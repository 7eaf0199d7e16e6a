import NodeFit.Analysis
import NodeFit.Proofs.Cluster.Object
import NodeFit.Proofs.Filter
import NodeFit.Proofs.Outcome

/-!
# NodeFit.Proofs.Analysis

When a check reaches a verdict, and which.

The workload that a check depends on decides by which criteria it is judged
(`NodeCheck.Governed`) or that it is skipped (`NodeCheck.Skipped`).  A check that is
judged goes through stages that all have to succeed (`NodeCheck.Stages`), and then its
result is that of the first outcome that holds (`analyze_verdict`).

The premises are about files rather than about what is decoded from them:

* `Store.Collected` says which objects the file of a namespace lists,
* `WorkloadRef.Listed` says by which field of its metadata a workload is found among them,
* `NodeCheck.Stages` names the nodes that were read and the ones that the filter left.

Each stage comes with an equation for its success (`resolveGate_eq_ok_iff`,
`analyze_eq_ok_iff`), so that nothing below them unfolds the analysis.
-/

namespace NodeFit

/-! ## The gate -/

/-- The deployments of a namespace have been collected: the file that is kept for the namespace
lists these objects, and nothing but deployments. -/
def Store.Collected (store : Store) (ns : String) (deployments : List Tree) : Prop :=
  ∃ payload, store.fetch ("cluster-resources/deployments/" ++ ns ++ ".json") = .ok payload ∧
    Cluster.Lists .deployment payload deployments

/-- Some deployment has the name of the workload in its metadata; a missing name is empty. -/
def WorkloadRef.Listed (workload : WorkloadRef) (deployments : List Tree) : Prop :=
  ∃ t ∈ deployments, (Cluster.textAt? ["metadata", "name"] t).getD "" = workload.name

/-- The criteria that a check is judged by. -/
inductive NodeCheck.Governed (check : NodeCheck) (store : Store) : Criteria → Prop where
  | ungated : check.gating.deployment = none → Governed check store check.own
  | update {workload deployments criteria} :
      check.gating.deployment = some workload → store.Collected workload.ns deployments →
      workload.Listed deployments → check.gating.onUpdate = some criteria →
      Governed check store criteria
  | install {workload deployments criteria} :
      check.gating.deployment = some workload → store.Collected workload.ns deployments →
      ¬workload.Listed deployments → check.gating.onInstall = some criteria →
      Governed check store criteria
  | own {workload deployments} :
      check.gating.deployment = some workload → store.Collected workload.ns deployments →
      ¬workload.Listed deployments → check.gating.onInstall = none →
      Governed check store check.own

/-- The check is skipped on account of a workload. -/
structure NodeCheck.Skipped (check : NodeCheck) (store : Store) (workload : WorkloadRef) :
    Prop where
  deployment : check.gating.deployment = some workload
  listed : ∃ deployments, store.Collected workload.ns deployments ∧ workload.Listed deployments
  onUpdate : check.gating.onUpdate = none

theorem Store.read_eq_ok_iff {store : Store} {key : String} {payload : Bytes} :
    store.read key = .ok payload ↔ store.fetch key = .ok payload :=
  mapError_eq_ok_iff

/-- The deployments of a namespace are those that its file lists. -/
theorem Store.deployments_eq_ok_iff {store : Store} {ns : String}
    {records : List Cluster.WorkloadRecord} :
    store.deployments ns = .ok records ↔ ∃ deployments, store.Collected ns deployments ∧
      deployments.map (Cluster.WorkloadRecord.ofTree ns) = records := by
  simp only [Store.deployments, bind_eq_ok_iff, Store.read_eq_ok_iff]
  constructor
  · intro h
    obtain ⟨payload, hfetch, h⟩ := h
    split at h
    · next found hdecode =>
        obtain ⟨deployments, hlists, hrecords⟩ := Cluster.decodeDeployments?_eq_some_iff.1 hdecode
        exact ⟨deployments, ⟨payload, hfetch, hlists⟩, hrecords.trans (Except.ok.inj h)⟩
    · contradiction
  · intro h
    obtain ⟨deployments, ⟨payload, hfetch, hlists⟩, hrecords⟩ := h
    have hdecode := Cluster.decodeDeployments?_eq_some_iff.2 ⟨deployments, hlists, hrecords⟩
    exact ⟨payload, hfetch, by rw [hdecode]; rfl⟩

/-- A workload is looked for by its name among the deployments of its namespace. -/
theorem Store.hasWorkload_eq_ok_iff {store : Store} {workload : WorkloadRef} {b : Bool} :
    store.hasWorkload workload = .ok b ↔
      ∃ deployments, store.Collected workload.ns deployments ∧
        (b = true ↔ workload.Listed deployments) := by
  have hlisted (deployments : List Tree) :
      ((deployments.map (Cluster.WorkloadRecord.ofTree workload.ns)).any
        fun d => d.name == workload.name) = true ↔ workload.Listed deployments := by
    simp [WorkloadRef.Listed, Cluster.WorkloadRecord.name_ofTree]
  simp only [Store.hasWorkload, bind_eq_ok_iff, Store.deployments_eq_ok_iff]
  constructor
  · intro h
    obtain ⟨_, ⟨deployments, hcollected, rfl⟩, h⟩ := h
    exact ⟨deployments, hcollected, Except.ok.inj h ▸ hlisted deployments⟩
  · intro h
    obtain ⟨deployments, hcollected, h⟩ := h
    have hb := Bool.eq_iff_iff.2 ((hlisted deployments).trans h.symm)
    exact ⟨_, ⟨deployments, hcollected, rfl⟩, congrArg Except.ok hb⟩

namespace NodeCheck

variable {check : NodeCheck} {store : Store} {workload : WorkloadRef} {criteria : Criteria}

/-- Once it is known whether the workload is there, the criteria are those of the update if it is,
and otherwise those of the installation or the check's own. -/
theorem decision_eq_evaluate_iff {present : Bool} :
    check.decision workload present = .evaluate criteria ↔
      present = true ∧ check.gating.onUpdate = some criteria ∨
      present = false ∧ (check.gating.onInstall = some criteria ∨
        check.gating.onInstall = none ∧ check.own = criteria) := by
  cases present with
  | true => cases h : check.gating.onUpdate <;> simp [decision, h]
  | false => cases h : check.gating.onInstall <;> simp [decision, h]

/-- A check is skipped only if its workload is there and it says nothing about an update. -/
theorem decision_eq_skip_iff {other : WorkloadRef} {present : Bool} :
    check.decision workload present = .skip other ↔
      present = true ∧ check.gating.onUpdate = none ∧ workload = other := by
  cases present with
  | true => cases h : check.gating.onUpdate <;> simp [decision, h]
  | false => simp [decision]

/-- A check without a workload keeps its criteria; any other depends on whether the
workload is listed. -/
theorem resolveGate_eq_ok_iff {d : GateDecision} :
    check.resolveGate store.hasWorkload = .ok d ↔
      check.gating.deployment = none ∧ .evaluate check.own = d ∨
      ∃ workload deployments present, check.gating.deployment = some workload ∧
        store.Collected workload.ns deployments ∧
        (present = true ↔ workload.Listed deployments) ∧
        check.decision workload present = d := by
  unfold resolveGate
  cases h : check.gating.deployment with
  | none => simp
  | some workload =>
      simp only [map_eq_ok_iff, Store.hasWorkload_eq_ok_iff]
      constructor
      · intro h
        obtain ⟨present, ⟨deployments, hcollected, hlisted⟩, hd⟩ := h
        exact .inr ⟨workload, deployments, present, rfl, hcollected, hlisted, hd⟩
      · intro h
        obtain ⟨hnone, -⟩ | ⟨_, deployments, present, hsome, hcollected, hlisted, hd⟩ := h
        · contradiction
        · cases hsome
          exact ⟨present, ⟨deployments, hcollected, hlisted⟩, hd⟩

/-- The gate answers with the criteria that the check is governed by. -/
theorem resolveGate_eq_evaluate_iff :
    check.resolveGate store.hasWorkload = .ok (.evaluate criteria) ↔
      check.Governed store criteria := by
  simp only [resolveGate_eq_ok_iff, GateDecision.evaluate.injEq, decision_eq_evaluate_iff]
  constructor
  · intro h
    obtain ⟨hdeployment, rfl⟩ | ⟨workload, deployments, present, hdeployment, hcollected, hlisted,
      ⟨rfl, hupdate⟩ | ⟨rfl, hinstall | ⟨hinstall, rfl⟩⟩⟩ := h
    · exact .ungated hdeployment
    · exact .update hdeployment hcollected (hlisted.1 rfl) hupdate
    · exact .install hdeployment hcollected (by simpa using hlisted) hinstall
    · exact .own hdeployment hcollected (by simpa using hlisted) hinstall
  · intro h
    obtain hdeployment | ⟨hdeployment, hcollected, hlisted, hupdate⟩ |
      ⟨hdeployment, hcollected, hunlisted, hinstall⟩ |
      ⟨hdeployment, hcollected, hunlisted, hinstall⟩ := h
    · exact .inl ⟨hdeployment, rfl⟩
    · exact .inr ⟨_, _, true, hdeployment, hcollected, by simpa using hlisted,
        .inl ⟨rfl, hupdate⟩⟩
    · exact .inr ⟨_, _, false, hdeployment, hcollected, by simpa using hunlisted,
        .inr ⟨rfl, .inl hinstall⟩⟩
    · exact .inr ⟨_, _, false, hdeployment, hcollected, by simpa using hunlisted,
        .inr ⟨rfl, .inr ⟨hinstall, rfl⟩⟩⟩

/-- The gate answers with the workload on account of which the check is skipped. -/
theorem resolveGate_eq_skip_iff :
    check.resolveGate store.hasWorkload = .ok (.skip workload) ↔ check.Skipped store workload := by
  simp only [resolveGate_eq_ok_iff, reduceCtorEq, and_false, false_or, decision_eq_skip_iff]
  constructor
  · intro h
    obtain ⟨_, deployments, _, hdeployment, hcollected, hlisted, rfl, hupdate, rfl⟩ := h
    exact ⟨hdeployment, ⟨deployments, hcollected, hlisted.1 rfl⟩, hupdate⟩
  · intro h
    obtain ⟨hdeployment, ⟨deployments, hcollected, hlisted⟩, hupdate⟩ := h
    exact ⟨workload, deployments, true, hdeployment, hcollected, by simpa using hlisted, rfl,
      hupdate, rfl⟩

end NodeCheck

/-! ## The stages -/

/-- What comes before the choice of an outcome, all of it successful. -/
structure NodeCheck.Stages (check : NodeCheck) (store : Store) where
  criteria : Criteria
  payload : Bytes
  nodes : List ClusterNode
  governed : check.Governed store criteria
  fetched : store.fetch "cluster-resources/nodes.json" = .ok payload
  decoded : Cluster.decodeNodes payload = .ok nodes
  filtered : ∃ matching, matchingNodes criteria.filter nodes = .ok matching

variable {check : NodeCheck} {store : Store}

/-- The nodes that the outcomes are tried over. -/
def NodeCheck.Stages.matching (s : check.Stages store) : List ClusterNode :=
  s.nodes.filter fun node => node.Meets s.criteria.filter

theorem NodeCheck.Stages.matchingNodes_eq (s : check.Stages store) :
    matchingNodes s.criteria.filter s.nodes = .ok s.matching := by
  obtain ⟨matching, h⟩ := s.filtered
  obtain ⟨-, rfl⟩ := matchingNodes_eq_ok_iff.1 h
  exact h

/-- A check that succeeds is skipped, or passes all stages and has the result of the
outcome that is selected. -/
theorem analyze_eq_ok_iff {r : AnalysisResult} :
    analyze check store = .ok r ↔
      (∃ payload workload, store.fetch nodesKey = .ok payload ∧ check.Skipped store workload ∧
        (AnalysisResult.ofCheckName check.name).skip (skipMessage workload) = r) ∨
      ∃ (s : check.Stages store) (chosen : Option Outcome),
        selectOutcome s.matching s.criteria.outcomes = .ok chosen ∧
        chosen.elim (AnalysisResult.ofCheckName check.name)
          (AnalysisResult.ofCheckName check.name).withOutcome = r := by
  simp only [analyze, bind_eq_ok_iff, Store.read_eq_ok_iff]
  constructor
  · intro h
    obtain ⟨payload, hfetch, d, hgate, h⟩ := h
    cases d with
    | skip workload =>
        exact .inl ⟨payload, workload, hfetch, NodeCheck.resolveGate_eq_skip_iff.1 hgate,
          Except.ok.inj h⟩
    | evaluate criteria =>
        simp only [Criteria.judge, applyOutcomes, bind_eq_ok_iff, mapError_eq_ok_iff] at h
        obtain ⟨nodes, hdecode, matching, hmatching, chosen, hchosen, hr⟩ := h
        obtain ⟨-, rfl⟩ := matchingNodes_eq_ok_iff.1 hmatching
        exact .inr ⟨⟨criteria, payload, nodes, NodeCheck.resolveGate_eq_evaluate_iff.1 hgate,
          hfetch, hdecode, _, hmatching⟩, chosen, hchosen, Except.ok.inj hr⟩
  · intro h
    obtain ⟨payload, workload, hfetch, hskip, rfl⟩ | ⟨s, chosen, hchosen, rfl⟩ := h
    · exact ⟨payload, hfetch, _, NodeCheck.resolveGate_eq_skip_iff.2 hskip, rfl⟩
    · refine ⟨s.payload, s.fetched, _, NodeCheck.resolveGate_eq_evaluate_iff.2 s.governed, ?_⟩
      simp only [Criteria.judge, applyOutcomes, bind_eq_ok_iff, mapError_eq_ok_iff]
      exact ⟨s.nodes, s.decoded, s.matching, s.matchingNodes_eq, chosen, hchosen, rfl⟩

/-! ## Verdicts -/

/-- A result without a verdict is what the check started with. -/
theorem eq_ofCheckName_of_verdict {r : AnalysisResult} (h : analyze check store = .ok r)
    (hv : r.verdict = none) :
    r = .ofCheckName check.name ∧
      ∃ s : check.Stages store, ∀ o ∈ s.criteria.outcomes, o.holds s.matching = .ok false := by
  obtain ⟨_, _, -, -, rfl⟩ | ⟨s, chosen, hchosen, rfl⟩ := analyze_eq_ok_iff.1 h
  · contradiction
  · cases chosen with
    | none => exact ⟨rfl, s, selectOutcome_eq_none_iff.1 hchosen⟩
    | some o => contradiction

/-- A check is skipped on account of a workload, after the list of nodes has been had. -/
theorem exists_skipped_iff :
    (∃ r, analyze check store = .ok r ∧ r.skipped = true) ↔
      ∃ payload workload, store.fetch "cluster-resources/nodes.json" = .ok payload ∧
        check.Skipped store workload := by
  constructor
  · intro h
    obtain ⟨r, hr, hskipped⟩ := h
    obtain ⟨payload, workload, hfetch, hskip, -⟩ | ⟨s, chosen, -, rfl⟩ := analyze_eq_ok_iff.1 hr
    · exact ⟨payload, workload, hfetch, hskip⟩
    · cases chosen <;> contradiction
  · intro h
    obtain ⟨payload, workload, hfetch, hskip⟩ := h
    exact ⟨_, analyze_eq_ok_iff.2 (.inl ⟨payload, workload, hfetch, hskip, rfl⟩), rfl⟩

/-- **A check that is not skipped has the verdict of the first outcome that holds**, after
stages that all succeed, and has no verdict when none of its outcomes holds.  It is skipped when
the deployment that it depends on is listed and it has no criteria for that case. -/
theorem analyze_verdict (check : NodeCheck) (store : Store) :
    (∀ (v : Verdict) (m : String) (u : Option String),
      (∃ r, analyze check store = .ok r ∧ r.skipped = false ∧
        r.verdict = some v ∧ r.message = m ∧ r.uri = u) ↔
      ∃ (s : check.Stages store) (i : Nat) (o : Outcome),
        FirstHolds s.matching s.criteria.outcomes i o ∧
        o.verdict = v ∧ o.body.message = m ∧ o.body.uri = u) ∧
    ((∃ r, analyze check store = .ok r ∧ r.verdict = none ∧ r.message = "" ∧ r.uri = none) ↔
      ∃ s : check.Stages store, ∀ o ∈ s.criteria.outcomes, o.holds s.matching = .ok false) ∧
    (∀ r, analyze check store = .ok r → r.verdict = none →
      r.skipped = false ∧ r.message = "" ∧ r.uri = none) ∧
    ((∃ r, analyze check store = .ok r ∧ r.skipped = true) ↔
      ∃ payload workload, store.fetch "cluster-resources/nodes.json" = .ok payload ∧
        check.Skipped store workload) := by
  refine ⟨fun v m u => ⟨?_, ?_⟩, ⟨?_, ?_⟩, ?_, exists_skipped_iff⟩
  · intro h
    obtain ⟨r, hr, hskipped, hv, hm, hu⟩ := h
    obtain ⟨_, _, -, -, rfl⟩ | ⟨s, chosen, hchosen, rfl⟩ := analyze_eq_ok_iff.1 hr
    · contradiction
    · cases chosen with
      | none => contradiction
      | some o =>
          obtain ⟨i, hi⟩ := selectOutcome_eq_some_iff.1 hchosen
          exact ⟨s, i, o, hi, Option.some.inj hv, hm, hu⟩
  · intro h
    obtain ⟨s, i, o, hi, rfl, rfl, rfl⟩ := h
    have hselect := selectOutcome_eq_some_iff.2 ⟨i, hi⟩
    exact ⟨_, analyze_eq_ok_iff.2 (.inr ⟨s, some o, hselect, rfl⟩), rfl, rfl, rfl, rfl⟩
  · intro h
    obtain ⟨r, hr, hv, -⟩ := h
    exact (eq_ofCheckName_of_verdict hr hv).2
  · intro h
    obtain ⟨s, hall⟩ := h
    have hselect := selectOutcome_eq_none_iff.2 hall
    exact ⟨_, analyze_eq_ok_iff.2 (.inr ⟨s, none, hselect, rfl⟩), rfl, rfl, rfl⟩
  · intro r hr hv
    rw [(eq_ofCheckName_of_verdict hr hv).1]
    exact ⟨rfl, rfl, rfl⟩

/-- A check for a deployment that is not there yet, which has its own say about two nodes. -/
def installCheck : NodeCheck where
  name := ""
  own := ⟨none, []⟩
  gating :=
    { deployment := some ⟨"default", "web"⟩
      onInstall := some
        ⟨none,
          [⟨.fail, ⟨"count() > 2", "too many nodes", none⟩⟩,
            ⟨.warn, ⟨"count() == 2", "two nodes", some "docs"⟩⟩,
            ⟨.pass, ⟨"no conditional", "never tried", none⟩⟩]⟩
      onUpdate := none }

/-- Two nodes and no deployment. -/
def twoNodes : Store where
  fetch key :=
    if key = nodesKey then .ok "[{}, {}]".toUTF8.toList
    else if key = deploymentsKey "default" then .ok "[]".toUTF8.toList
    else .error ⟨key, .notCollected⟩

/-- The same before there is anything to say. -/
def silentCheck : NodeCheck := { installCheck with gating := ⟨none, none, none⟩ }

/-- The same with its own say about large nodes, once the deployment is there. -/
def updateCheck : NodeCheck where
  name := ""
  own := ⟨none, []⟩
  gating :=
    { installCheck.gating with
      onUpdate := some
        ⟨some (Filter.empty.withBound ⟨.cpu, .capacity⟩ "2"),
          [⟨.fail, ⟨"count() == 0", "no large node", none⟩⟩,
            ⟨.pass, ⟨"count() == 1", "one large node", none⟩⟩]⟩ }

/-- A large node, one of unknown size, and a file of deployments. -/
def largeNode (deployments : String) : Store where
  fetch key :=
    if key = "cluster-resources/nodes.json" then
      .ok "[\x7b\"status\": \x7b\"capacity\": \x7b\"cpu\": \"4\"\x7d\x7d\x7d, {}]".toUTF8.toList
    else if key = "cluster-resources/deployments/default.json" then .ok deployments.toUTF8.toList
    else .error ⟨key, .notCollected⟩

/-- The deployment that the checks depend on is listed. -/
def largeNodeWithWeb : Store := largeNode "[{}, \x7b\"metadata\": \x7b\"name\": \"web\"\x7d\x7d]"

/-- What stands in for the deployments is no list of deployments. -/
def largeNodeUnlisted : Store := largeNode "[\x7b\"metadata\": \"web\"\x7d]"

/-- A check that has its say, one that has nothing to say, one that is judged by the criteria of
an update over the nodes of a bounded filter, one that is skipped, and a file of deployments that
is none. -/
theorem analyze_verdict_install :
    (∃ (s : installCheck.Stages twoNodes) (i : Nat) (o : Outcome),
      FirstHolds s.matching s.criteria.outcomes i o ∧
      o.verdict = .warn ∧ o.body.message = "two nodes" ∧ o.body.uri = some "docs") ∧
    (∃ r, analyze silentCheck twoNodes = .ok r ∧ r.verdict = none ∧
      r.skipped = false ∧ r.message = "" ∧ r.uri = none) ∧
    (∃ (s : updateCheck.Stages largeNodeWithWeb) (i : Nat) (o : Outcome),
      FirstHolds s.matching s.criteria.outcomes i o ∧
      o.verdict = .pass ∧ o.body.message = "one large node" ∧ o.body.uri = none) ∧
    (∃ workload, installCheck.Skipped largeNodeWithWeb workload) ∧
    ∀ (s : updateCheck.Stages largeNodeUnlisted) (i : Nat) (o : Outcome),
      ¬FirstHolds s.matching s.criteria.outcomes i o := by
  have hinstall : analyze installCheck twoNodes =
      .ok { AnalysisResult.ofCheckName "" with
        verdict := some .warn, message := "two nodes", uri := some "docs" } :=
    toOption_eq_some_iff.1 (by decide +kernel)
  have hsilent : analyze silentCheck twoNodes = .ok (.ofCheckName "") :=
    toOption_eq_some_iff.1 (by decide +kernel)
  have hupdate : analyze updateCheck largeNodeWithWeb =
      .ok { AnalysisResult.ofCheckName "" with verdict := some .pass, message := "one large node" } :=
    toOption_eq_some_iff.1 (by decide +kernel)
  have hskip : analyze installCheck largeNodeWithWeb =
      .ok ((AnalysisResult.ofCheckName "").skip (skipMessage ⟨"default", "web"⟩)) :=
    toOption_eq_some_iff.1 (by decide +kernel)
  have hunlisted : (analyze updateCheck largeNodeUnlisted).toOption = none := by decide +kernel
  obtain ⟨-, workload, -, hskipped⟩ :=
    (analyze_verdict installCheck largeNodeWithWeb).2.2.2.1 ⟨_, hskip, rfl⟩
  refine ⟨((analyze_verdict _ _).1 _ _ _).1 ⟨_, hinstall, rfl, rfl, rfl, rfl⟩,
    ⟨_, hsilent, rfl, (analyze_verdict _ _).2.2.1 _ hsilent rfl⟩,
    ((analyze_verdict _ _).1 _ _ _).1 ⟨_, hupdate, rfl, rfl, rfl, rfl⟩,
    ⟨workload, hskipped⟩, fun s i o hfirst => ?_⟩
  obtain ⟨r, hr, -⟩ :=
    ((analyze_verdict updateCheck largeNodeUnlisted).1 _ _ _).2 ⟨s, i, o, hfirst, rfl, rfl, rfl⟩
  rw [hr] at hunlisted
  contradiction

end NodeFit
