import NodeFit.Command
import NodeFit.Proofs.Run

/-!
# NodeFit.Proofs.Analysis.Keys

Which collected files an analysis may depend on.

A check looks at the list of nodes and, if it depends on a deployment, at the deployments
of its namespace, and at nothing else (`analyze_congr`).  So files that are read ahead by
the keys of the entries serve as well as the collection itself
(`contribution_ofFetched`).

This is what makes the parallel mode possible at all: its workers never touch the
collection, only the files that were read before they started.
-/

namespace NodeFit

variable {store store' : Store}

/-! ## Checks -/

theorem Store.read_congr {key : String} (h : store.fetch key = store'.fetch key) :
    store.read key = store'.read key := by
  rw [Store.read, Store.read, h]

/-- Whether a workload is there depends on the file of its namespace only. -/
theorem Store.hasWorkload_congr {workload : WorkloadRef}
    (h : store.fetch (deploymentsKey workload.ns) = store'.fetch (deploymentsKey workload.ns)) :
    store.hasWorkload workload = store'.hasWorkload workload := by
  simp only [Store.hasWorkload, Store.deployments, Store.read_congr h]

/-- **An analysis depends on the list of nodes**, and on the deployments of one namespace if
the check depends on a deployment. -/
theorem analyze_congr {check : NodeCheck} (hnodes : store.fetch nodesKey = store'.fetch nodesKey)
    (hdeployments : ∀ workload, check.gating.deployment = some workload →
      store.fetch (deploymentsKey workload.ns) = store'.fetch (deploymentsKey workload.ns)) :
    analyze check store = analyze check store' := by
  have hgate : check.resolveGate store.hasWorkload = check.resolveGate store'.hasWorkload := by
    unfold NodeCheck.resolveGate
    cases h : check.gating.deployment with
    | none => rfl
    | some workload => simp only [Store.hasWorkload_congr (hdeployments workload h)]
  rw [analyze, analyze, Store.read_congr hnodes, hgate]

/-- What an entry contributes depends on the files of its keys. -/
theorem AnalyzerEntry.contribution_congr {entry : AnalyzerEntry}
    (h : ∀ key ∈ entry.keys, store.fetch key = store'.fetch key) :
    entry.contribution store = entry.contribution store' := by
  unfold AnalyzerEntry.contribution
  cases hcheck : entry.nodeResources with
  | none => rfl
  | some check =>
      simp only [AnalyzerEntry.keys, hcheck, List.forall_mem_cons] at h
      obtain ⟨hnodes, hdeployments⟩ := h
      have hanalyze : NodeFit.analyze check store = NodeFit.analyze check store' := by
        refine analyze_congr hnodes fun workload hworkload => hdeployments _ ?_
        simp [hworkload]
      simp only [hanalyze]

/-! ## Files read ahead -/

/-- A file that was read ahead is found under its key. -/
theorem lookup_map_pair {α : Type} (f : String → α) {key : String} {keys : List String}
    (h : key ∈ keys) : (keys.map fun k => (k, f k)).lookup key = some (f key) := by
  induction keys with
  | nil => contradiction
  | cons k rest ih =>
      rw [List.map_cons, Dictionary.lookup_cons]
      by_cases hk : key = k
      · simp [hk]
      · rw [if_neg hk]
        exact ih ((List.mem_cons.1 h).resolve_left hk)

/-- **Files that are read ahead serve as well as the collection itself**, for entries whose
keys were read. -/
theorem contribution_ofFetched {entries : List AnalyzerEntry} {entry : AnalyzerEntry}
    (h : entry ∈ entries) (store : Store) :
    entry.contribution (.ofFetched
      ((entries.flatMap AnalyzerEntry.keys).map fun key => (key, store.fetch key))) =
      entry.contribution store := by
  refine AnalyzerEntry.contribution_congr fun key hkey => ?_
  have hmem : key ∈ entries.flatMap AnalyzerEntry.keys := List.mem_flatMap.2 ⟨entry, h, hkey⟩
  simp only [Store.ofFetched, lookup_map_pair store.fetch hmem, Option.getD_some]

end NodeFit
