import NodeFit.Proofs.Analysis
import NodeFit.Proofs.Analysis.Keys
import NodeFit.Store.Memory

/-!
# NodeFit.Proofs.Analysis.Dependence

What an analysis makes of the files it may read.

Without a list of nodes nothing else counts.  With one, a check that is skipped never has
it read: any other bytes in its place lead to the same result.  Together with
`analyze_congr` this says on which files a result can depend (`analyze_dependence`).

That a result is marked as skipped is the gate's doing alone
(`skipped_or_title_of_analyze`).  The key of the list of nodes is never the key of a
namespace (`deploymentsKey_ne_nodesKey`), so that replacing the one leaves the other.
-/

namespace NodeFit

/-! ## Stores -/

/-- The errors of a store are about the keys that it is asked for. -/
def Store.NamesKeys (store : Store) : Prop :=
  ∀ key e, store.fetch key = .error e → e.key = key

theorem MemoryStore.namesKeys (files : MemoryStore) : files.toStore.NamesKeys := by
  intro key e h
  simp only [MemoryStore.toStore, MemoryStore.fetch] at h
  split at h
  · contradiction
  · rw [← Except.error.inj h]

/-- An error of a directory names the key, whatever went wrong below it. -/
theorem DirectoryStore.key_of_fetched {key path : String} {read : Except FileError Bytes}
    {e : FetchError} (h : fetched key path read = .error e) : e.key = key := by
  unfold fetched at h
  split at h
  · contradiction
  · rw [← Except.error.inj h]
  · rw [← Except.error.inj h]

/-- A directory of a tree of files reports errors under the key that was asked for. -/
theorem DirectoryStore.namesKeys_ofTree (t : FileTree) (cwd : List String) (root : String) :
    (DirectoryStore.ofTree t cwd root).NamesKeys := by
  intro key e h
  simp only [DirectoryStore.ofTree, DirectoryStore.fetch, DirectoryStore.resolve] at h
  split at h
  · rw [← Except.error.inj h]
  · exact DirectoryStore.key_of_fetched h

/-- The store with other bytes under a key. -/
def Store.replace (store : Store) (key : String) (bytes : Bytes) : Store where
  fetch other := if other = key then .ok bytes else store.fetch other

@[simp] theorem Store.fetch_replace_self (store : Store) (key : String) (bytes : Bytes) :
    (store.replace key bytes).fetch key = .ok bytes :=
  if_pos rfl

/-- Replacing one file leaves the others as they are. -/
theorem Store.fetch_replace_of_ne (store : Store) {key other : String} (bytes : Bytes)
    (h : other ≠ key) : (store.replace key bytes).fetch other = store.fetch other :=
  if_neg h

/-- The list of nodes is never taken for the deployments of a namespace. -/
theorem deploymentsKey_ne_nodesKey (ns : String) : deploymentsKey ns ≠ nodesKey := by
  intro h
  have hkey : ("cluster-resources/deployments/" ++ ns ++ ".json").toList = nodesKey.toList :=
    congrArg String.toList h
  simp only [String.toList_append, List.append_assoc] at hkey
  have hdirectory : "cluster-resources/deployments/".toList <+: nodesKey.toList := ⟨_, hkey⟩
  exact absurd hdirectory (by decide)

/-! ## Analyses -/

variable {check : NodeCheck} {store : Store}

/-- Without the list of nodes nothing else is looked at. -/
theorem analyze_of_missing {e : FetchError} (h : store.fetch nodesKey = .error e) :
    analyze check store = .error (.fetch e) := by
  rw [analyze, Store.read, h]
  rfl

/-- Replacing the list of nodes does not touch the gate. -/
theorem NodeCheck.Skipped.replace {workload : WorkloadRef} (h : check.Skipped store workload)
    (bytes : Bytes) : check.Skipped (store.replace nodesKey bytes) workload := by
  obtain ⟨deployments, ⟨payload, hfetch, hlists⟩, hlisted⟩ := h.listed
  have hsame := store.fetch_replace_of_ne bytes (deploymentsKey_ne_nodesKey workload.ns)
  exact ⟨h.deployment, ⟨deployments, ⟨payload, hsame.trans hfetch, hlists⟩, hlisted⟩, h.onUpdate⟩

/-- A check that is skipped has the result that says so, whatever the list of nodes holds. -/
theorem analyze_of_skipped {workload : WorkloadRef} {payload : Bytes}
    (hfetch : store.fetch nodesKey = .ok payload) (h : check.Skipped store workload) :
    analyze check store =
      .ok ((AnalysisResult.ofCheckName check.name).skip (skipMessage workload)) :=
  analyze_eq_ok_iff.2 (.inl ⟨payload, workload, hfetch, h, rfl⟩)

/-- Only the gate marks a result as skipped; any other result has the usual title. -/
theorem skipped_or_title_of_analyze {r : AnalysisResult} (h : analyze check store = .ok r) :
    (r.skipped = true ∧ ∃ workload, check.Skipped store workload) ∨
      r.skipped = false ∧ (∀ workload, ¬check.Skipped store workload) ∧
        r.title = (AnalysisResult.ofCheckName check.name).title := by
  obtain ⟨_, workload, -, hskip, rfl⟩ | ⟨s, chosen, -, rfl⟩ := analyze_eq_ok_iff.1 h
  · exact .inl ⟨rfl, workload, hskip⟩
  · have hnot (workload : WorkloadRef) : ¬check.Skipped store workload := by
      intro hskip
      have hgate := NodeCheck.resolveGate_eq_skip_iff.2 hskip
      rw [NodeCheck.resolveGate_eq_evaluate_iff.2 s.governed] at hgate
      exact nomatch Except.ok.inj hgate
    cases chosen with
    | none => exact .inr ⟨rfl, hnot, rfl⟩
    | some o => exact .inr ⟨rfl, hnot, rfl⟩

/-- **What an analysis may depend on.**  Stores that agree on the list of nodes and, for a
check that depends on a deployment, on the deployments of its namespace lead to the same
result or error.  A missing list of nodes is the answer whatever else is there.  A check
that is skipped says so in its result, which no bytes in place of the list of nodes change;
no other check has a result that says so. -/
theorem analyze_dependence (check : NodeCheck) (store : Store) :
    (∀ other : Store, other.fetch nodesKey = store.fetch nodesKey →
      (∀ workload, check.gating.deployment = some workload →
        other.fetch (deploymentsKey workload.ns) = store.fetch (deploymentsKey workload.ns)) →
      analyze check other = analyze check store) ∧
    (∀ e, store.fetch nodesKey = .error e →
      analyze check store = .error (.fetch e) ∧ (store.NamesKeys → e.key = nodesKey)) ∧
    (∀ payload workload, store.fetch nodesKey = .ok payload → check.Skipped store workload →
      ∃ r, analyze check store = .ok r ∧ r.skipped = true ∧ r.verdict = some .warn ∧
        r.title = "Skipped: " ++ (AnalysisResult.ofCheckName check.name).title ∧
        ∀ bytes, analyze check (store.replace nodesKey bytes) = .ok r) ∧
    (∀ r, analyze check store = .ok r →
      (r.skipped = true ↔ ∃ workload, check.Skipped store workload) ∧
      (r.skipped = false → r.title = (AnalysisResult.ofCheckName check.name).title)) ∧
    (∀ files : MemoryStore, files.toStore.NamesKeys) ∧
    ∀ (t : FileTree) (cwd : List String) (root : String),
      (DirectoryStore.ofTree t cwd root).NamesKeys := by
  refine ⟨fun other hnodes hdeployments => analyze_congr hnodes hdeployments, ?_, ?_, ?_,
    MemoryStore.namesKeys, DirectoryStore.namesKeys_ofTree⟩
  · intro e he
    exact ⟨analyze_of_missing he, fun hnames => hnames nodesKey e he⟩
  · intro payload workload hfetch hskip
    refine ⟨_, analyze_of_skipped hfetch hskip, rfl, rfl, rfl, fun bytes => ?_⟩
    exact analyze_of_skipped (store.fetch_replace_self nodesKey bytes) (hskip.replace bytes)
  · intro r hr
    obtain ⟨hskipped, hskip⟩ | ⟨hskipped, hnot, htitle⟩ := skipped_or_title_of_analyze hr
    · exact ⟨iff_of_true hskipped hskip, fun h => by rw [hskipped] at h; contradiction⟩
    · have hiff := iff_of_false (Bool.eq_false_iff.1 hskipped) (not_exists.2 hnot)
      exact ⟨hiff, fun _ => htitle⟩

/-- A check that has nothing to say once a deployment is there, of which it gives no name. -/
def firstInstallCheck : NodeCheck :=
  { installCheck with gating := { installCheck.gating with deployment := some ⟨"default", ""⟩ } }

/-- A deployment without a name, and a list of nodes that is no JSON. -/
def oneDeployment : Store where
  fetch key :=
    if key = nodesKey then .ok "not read".toUTF8.toList
    else if key = deploymentsKey "default" then .ok "[{}]".toUTF8.toList
    else .error ⟨key, .notCollected⟩

theorem skipped_oneDeployment : firstInstallCheck.Skipped oneDeployment ⟨"default", ""⟩ :=
  NodeCheck.resolveGate_eq_skip_iff.1 (toOption_eq_some_iff.1 (by decide +kernel))

/-- A file that no check reads makes no difference, an empty collection has no list of nodes, and
a deployment without a name skips a check that gives no name, over nodes that are no JSON. -/
theorem analyze_dependence_oneDeployment :
    analyze firstInstallCheck (oneDeployment.replace "version.json" []) =
      analyze firstInstallCheck oneDeployment ∧
    analyze firstInstallCheck MemoryStore.empty.toStore =
      .error (.fetch ⟨nodesKey, .notCollected⟩) ∧
    ∃ r, analyze firstInstallCheck oneDeployment = .ok r ∧ r.skipped = true ∧
      r.verdict = some .warn ∧ r.title = "Skipped: Node Resources" ∧
      analyze firstInstallCheck (oneDeployment.replace nodesKey []) = .ok r ∧
      (r.skipped = true ↔ ∃ workload, firstInstallCheck.Skipped oneDeployment workload) := by
  have hversion (key : String) (h : key ≠ "version.json") :
      (oneDeployment.replace "version.json" []).fetch key = oneDeployment.fetch key :=
    Store.fetch_replace_of_ne _ _ h
  have hfetch : oneDeployment.fetch nodesKey = .ok "not read".toUTF8.toList := by
    simp [oneDeployment]
  have hmissing : MemoryStore.empty.toStore.fetch nodesKey =
      .error ⟨nodesKey, .notCollected⟩ := rfl
  obtain ⟨hagree, -, hskip, hflag, -⟩ := analyze_dependence firstInstallCheck oneDeployment
  obtain ⟨r, hr, hskipped, hverdict, htitle, hreplace⟩ := hskip _ _ hfetch skipped_oneDeployment
  refine ⟨hagree _ (hversion _ (by decide)) fun workload hworkload => hversion _ ?_,
    ((analyze_dependence firstInstallCheck MemoryStore.empty.toStore).2.1 _ hmissing).1,
    r, hr, hskipped, hverdict, htitle, hreplace [], (hflag r hr).1⟩
  obtain rfl := Option.some.inj hworkload
  decide

end NodeFit
