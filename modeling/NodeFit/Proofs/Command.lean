import NodeFit.Proofs.Analysis
import NodeFit.Proofs.Analysis.Keys
import NodeFit.Proofs.Run.Parallel

/-!
# NodeFit.Proofs.Command

What the code of a run says.

A run over a tree of files reports the contributions of its entries, whatever the mode
and the turns of the workers (`runDocument_host`).  Its code is 1 exactly if an entry
fails: its analysis ends in an error, or the first of its outcomes that holds is a failure
(`execute_run_code`).  No other entry raises the code, and none lowers it.

Commands run against a host of which they know the operations only.  Here the host is a tree
of files with a working directory, a clock and a plan of turns (`TreeMachine.host`), and the
way from the command line to the code is followed step by step: settings and document are
read, the entries contribute, the metrics are written, the report is rendered.  A step that
cannot be carried out ends the run with code 2 and without output (`finish_error`).
-/

namespace NodeFit

/-! ## Machines -/

/-- A machine whose files are those of a tree. -/
structure TreeMachine where
  /-- The directory that paths start at. -/
  cwd : List String
  environment : Environment
  /-- The time that the clock shows. -/
  time : String
  /-- Whether results go to a terminal. -/
  terminal : Bool
  /-- The turns that workers get. -/
  schedule : List Nat

namespace TreeMachine

/-- The machine as the host of commands. -/
def host (m : TreeMachine) : Host (StateM FileTree) :=
  { FileTree.host m.cwd m.environment m.time with
    terminal := m.terminal
    schedule := pure m.schedule }

/-- The files below a directory as a collection. -/
def store (m : TreeMachine) (t : FileTree) (bundle : String) : Store :=
  DirectoryStore.ofTree t m.cwd bundle

/-- A file can be written at a path. -/
def Writable (m : TreeMachine) (t : FileTree) (path : String) : Prop :=
  ∃ bytes t', t.write m.cwd path bytes = .ok t'

variable {m : TreeMachine} {t : FileTree}

/-- Whether a file can be written does not depend on what is written. -/
theorem Writable.write_eq_ok {path : String} (h : m.Writable t path) (bytes : Bytes) :
    ∃ t', t.write m.cwd path bytes = .ok t' := by
  obtain ⟨bytes', t', h⟩ := h
  simp only [FileTree.write, bind_eq_ok_iff] at h ⊢
  obtain ⟨_, hcheck, place, hwalk, h⟩ := h
  cases hstep : t.step place ((FileTree.parts path).getLast?.getD "") with
  | error e =>
      rw [hstep] at h
      -- A part that is not found is where a new file goes.
      cases e with
      | notFound => exact ⟨_, _, hcheck, place, hwalk, by rw [hstep]; rfl⟩
      | _ => contradiction
  | ok found =>
      rw [hstep] at h
      by_cases hdirectory : (t.node? found == some .directory) = true
      · simp only [hdirectory] at h
        contradiction
      · exact ⟨_, _, hcheck, place, hwalk, by rw [hstep]; simp only [hdirectory]; rfl⟩

end TreeMachine

/-- A step that changes the state in a known way is followed by the next one. -/
theorem bind_apply {σ α β : Type} {x : StateM σ α} {f : α → StateM σ β} {s s' : σ} {a : α}
    (h : x s = (a, s')) : (x >>= f) s = f a s' := by
  change (match x s with | (a, s') => f a s') = _
  rw [h]

/-! ## Runs over a tree -/

section

variable (m : TreeMachine) (t : FileTree)

/-- The host finds the file of a key where the collection below the directory has it. -/
theorem fetch_host (root key : String) :
    m.host.fetch root key t = ((m.store t root).fetch key, t) := by
  simp only [Host.fetch, TreeMachine.store, DirectoryStore.ofTree, DirectoryStore.fetch]
  cases DirectoryStore.resolve root key <;> rfl

/-- Files are read as the collection gives them out. -/
theorem fetchAll_host (root : String) (keys : List String) :
    m.host.fetchAll root keys t = (keys.map fun key => (key, (m.store t root).fetch key), t) := by
  induction keys with
  | nil => rfl
  | cons key rest ih =>
      rw [Host.fetchAll, bind_apply (fetch_host m t root key), bind_apply ih]
      rfl

/-- In either mode, and for all turns of workers, a run comes to the contributions of its
entries. -/
theorem runEntries_host (store : Store) (parallel : Bool) (entries : List AnalyzerEntry) :
    ∃ effects, Command.runEntries m.host store parallel entries t =
      (⟨effects, entries.flatMap fun entry => entry.contribution store⟩, t) := by
  rw [← run_value]
  cases parallel with
  | false => exact ⟨(run store entries).effects, rfl⟩
  | true =>
      rw [← Pool.results_finish_turns entries m.schedule]
      exact ⟨(runParallel m.schedule store entries).effects, rfl⟩

/-- Metrics are written where a file can be written, or not at all. -/
theorem writeMetrics_host {metricsOut : Option String} (h : ∀ file ∈ metricsOut, m.Writable t file)
    (effects : List Effect) :
    ∃ t', Command.writeMetrics m.host metricsOut effects t = (.ok (), t') := by
  cases metricsOut with
  | none => exact ⟨t, rfl⟩
  | some file =>
      obtain ⟨t', ht'⟩ := (h file rfl).write_eq_ok (Command.metricsText effects).toUTF8.toList
      have hwrite : m.host.write file (Command.metricsText effects).toUTF8.toList t =
          (.ok (), t') := by
        change FileTree.put m.cwd file _ t = _
        simp only [FileTree.put, ht']
      refine ⟨t', ?_⟩
      rw [Command.writeMetrics, bind_apply hwrite]
      rfl

/-- **A run reports what its entries contribute**, over the files of the directory. -/
theorem runDocument_host (bundle : String) (d : PreflightDocument) (parallel : Bool)
    {metricsOut : Option String} (h : ∀ file ∈ metricsOut, m.Writable t file) :
    ∃ logs t', Command.runDocument m.host bundle d parallel metricsOut t =
      (⟨logs, .ok (.run d.title bundle m.time
        (d.analyzers.flatMap fun entry => entry.contribution (m.store t bundle)))⟩, t') := by
  obtain ⟨effects, hrun⟩ := runEntries_host m t (.ofFetched
    ((d.analyzers.flatMap AnalyzerEntry.keys).map fun key =>
      (key, (m.store t bundle).fetch key))) parallel d.analyzers
  obtain ⟨t', hmetrics⟩ := writeMetrics_host m t h effects
  -- The files were read ahead, but each entry finds all that it asks for.
  rw [List.flatMap_congr fun entry hentry => contribution_ofFetched hentry (m.store t bundle)]
    at hrun
  rw [Command.runDocument, bind_apply (fetchAll_host m t bundle _), bind_apply hrun,
    bind_apply hmetrics]
  exact ⟨_, t', rfl⟩

variable {bundle path : String} {parallel : Bool} {metricsOut : Option String}

/-- A run whose document can be loaded and whose bundle is a directory reports the contributions
of its entries in their order. -/
theorem run_host_ok {d : PreflightDocument}
    (hload : (loadDocument path (t.read m.cwd path)).result = .ok d)
    (hbundle : t.isDirectory m.cwd bundle = true) (h : ∀ file ∈ metricsOut, m.Writable t file) :
    (Command.run m.host bundle path parallel metricsOut t).1.result =
      .ok (.run d.title bundle m.time
        (d.analyzers.flatMap fun entry => entry.contribution (m.store t bundle))) := by
  obtain ⟨logs, t', hrun⟩ := runDocument_host m t bundle d parallel h
  have hread : m.host.read path t = (t.read m.cwd path, t) := rfl
  have hdirectory : m.host.isDirectory bundle t = (true, t) := by rw [← hbundle]; rfl
  rw [Command.run, bind_apply hread]
  simp only [hload]
  rw [bind_apply hdirectory, if_pos rfl, bind_apply hrun]
  rfl

/-- A run without a document or without a bundle reports an error. -/
theorem run_host_error
    (h : (∀ d, (loadDocument path (t.read m.cwd path)).result ≠ .ok d) ∨
      t.isDirectory m.cwd bundle = false) :
    ∃ e, (Command.run m.host bundle path parallel metricsOut t).1.result = .error e := by
  have hread : m.host.read path t = (t.read m.cwd path, t) := rfl
  rw [Command.run, bind_apply hread]
  cases hload : (loadDocument path (t.read m.cwd path)).result with
  | error e => exact ⟨_, rfl⟩
  | ok d =>
      have hbundle := h.resolve_left fun hnone => hnone d hload
      have hdirectory : m.host.isDirectory bundle t = (false, t) := by rw [← hbundle]; rfl
      simp only
      rw [bind_apply hdirectory]
      exact ⟨_, rfl⟩

end

/-! ## Failing entries -/

/-- The check of an entry cannot be carried out, or the first of its outcomes that holds is a
failure. -/
def AnalyzerEntry.Fails (entry : AnalyzerEntry) (store : Store) : Prop :=
  ∃ check, entry.nodeResources = some check ∧
    ((∃ e, NodeFit.analyze check store = .error e) ∨
      ∃ (s : check.Stages store) (i : Nat) (o : Outcome),
        FirstHolds s.matching s.criteria.outcomes i o ∧ o.verdict = .fail)

/-- A check that is carried out has the verdict of a failure by an outcome alone. -/
theorem verdict_eq_fail_iff {check : NodeCheck} {store : Store} {r : AnalysisResult}
    (h : analyze check store = .ok r) :
    r.verdict = some .fail ↔
      ∃ (s : check.Stages store) (i : Nat) (o : Outcome),
        FirstHolds s.matching s.criteria.outcomes i o ∧ o.verdict = .fail := by
  constructor
  · intro hv
    obtain ⟨_, _, -, -, rfl⟩ | ⟨s, chosen, hchosen, rfl⟩ := analyze_eq_ok_iff.1 h
    · nomatch hv
    · cases chosen with
      | none => nomatch hv
      | some o =>
          obtain ⟨i, hi⟩ := selectOutcome_eq_some_iff.1 hchosen
          exact ⟨s, i, o, hi, Option.some.inj hv⟩
  · intro hs
    obtain ⟨s, i, o, hi, hv⟩ := hs
    have hresult := analyze_eq_ok_iff.2 (.inr ⟨s, some o, selectOutcome_eq_some_iff.2 ⟨i, hi⟩, rfl⟩)
    rw [h] at hresult
    rw [Except.ok.inj hresult]
    exact congrArg some hv

/-- An entry fails when it contributes a result that failed. -/
theorem AnalyzerEntry.fails_iff {entry : AnalyzerEntry} {store : Store} :
    entry.Fails store ↔ ∃ r ∈ entry.contribution store, r.verdict = some .fail := by
  unfold AnalyzerEntry.Fails AnalyzerEntry.contribution
  cases entry.nodeResources with
  | none => simp
  | some check =>
      cases h : NodeFit.analyze check store with
      | error e => simp [h]
      | ok r => simp [h, verdict_eq_fail_iff h]

/-! ## The code -/

/-- A run is one of failure if a result failed. -/
theorem Report.run_failed_iff (title bundle time : String) {results : List AnalysisResult} :
    (Report.run title bundle time results).failed = true ↔
      ∃ r ∈ results, r.verdict = some .fail := by
  simp [Report.failed, AnalysisResult.hasVerdict]

section

variable {ended : Command.Ended}

/-- A report ends a command with code 1 if it is one of failure, and with code 0 otherwise. -/
theorem finish_ok {report : Report} (h : ended.result = .ok report) (style : Style)
    (filter : LogFilter) (format : OutputFormat) :
    ended.finish style filter format =
      ⟨if report.failed then 1 else 0, report.render style format,
        ended.logs.filter filter.admits, none⟩ := by
  simp only [Command.Ended.finish, h]

/-- An error ends a command with code 2, without output. -/
theorem finish_error {e : CommandError} (h : ended.result = .error e) (style : Style)
    (filter : LogFilter) (format : OutputFormat) :
    ended.finish style filter format =
      ⟨2, [], ended.logs.filter filter.admits, some (style.message .error e.message)⟩ := by
  simp only [Command.Ended.finish, h]

end

section

variable (m : TreeMachine) (t : FileTree)

theorem loadSettings_host :
    Command.loadSettings m.host t = ((Command.loadSettings m.host t).1, t) := by
  unfold Command.loadSettings
  cases Settings.path? m.host.environment <;> rfl

variable {m t} {settings : Settings} {general : GeneralOptions} {format : OutputFormat}
  {path : String} {parallel : Bool} {metricsOut : Option String}

/-- A run with settings ends as its document is run. -/
theorem execute_run_host (hsettings : (Command.loadSettings m.host t).1 = .ok settings)
    (hformat : settings.formatOr general.format = .ok format) :
    (Command.execute m.host ⟨general, .run path parallel metricsOut⟩ t).1 =
      (Command.run m.host (settings.bundleOr general.bundle) path
          (parallel || settings.parallel) metricsOut t).1.finish
        (.choose m.environment m.terminal) (.inForce m.environment general.verbose) format := by
  have hload := loadSettings_host m t
  rw [hsettings] at hload
  rw [Command.execute, bind_apply hload]
  simp only [hformat]
  rfl

/-- **The code of a run hides no failure**, given settings that name a format.  Where the
document loads, the directory is there and the numbers can be written, the code is 1 exactly
if an entry fails, which is to say that a reported result failed, and else 0.  Without the
document or the directory it is 2, and no result is reported. -/
theorem execute_run_code (hsettings : (Command.loadSettings m.host t).1 = .ok settings)
    (hformat : settings.formatOr general.format = .ok format) :
    let bundle := settings.bundleOr general.bundle
    let finished := (Command.execute m.host ⟨general, .run path parallel metricsOut⟩ t).1
    (∀ d, (loadDocument path (t.read m.cwd path)).result = .ok d →
      t.isDirectory m.cwd bundle = true → (∀ file ∈ metricsOut, m.Writable t file) →
      let results := d.analyzers.flatMap fun entry => entry.contribution (m.store t bundle)
      (finished.code = 1 ↔ ∃ entry ∈ d.analyzers, entry.Fails (m.store t bundle)) ∧
      (finished.code = 0 ↔ ¬∃ entry ∈ d.analyzers, entry.Fails (m.store t bundle)) ∧
      (finished.code = 1 ↔ ∃ r ∈ results, r.verdict = some .fail) ∧
      finished.output = (Report.run d.title bundle m.time results).render
        (.choose m.environment m.terminal) format ∧
      finished.error = none) ∧
    ((∀ d, (loadDocument path (t.read m.cwd path)).result ≠ .ok d) ∨
        t.isDirectory m.cwd bundle = false →
      finished.code = 2 ∧ finished.output = [] ∧ finished.error.isSome = true) := by
  intro bundle finished
  have hfinished : finished = _ := execute_run_host hsettings hformat
  constructor
  · intro d hload hbundle hmetrics results
    have hentries : (∃ entry ∈ d.analyzers, entry.Fails (m.store t bundle)) ↔
        ∃ r ∈ results, r.verdict = some .fail := by
      simp only [AnalyzerEntry.fails_iff, results, List.mem_flatMap]
      tauto
    rw [hfinished.trans (finish_ok (run_host_ok m t hload hbundle hmetrics) _ _ _), hentries,
      ← Report.run_failed_iff d.title bundle m.time]
    refine ⟨?_, ?_, ?_, rfl, rfl⟩ <;> simp [results]
  · intro h
    obtain ⟨e, he⟩ := run_host_error m t h
    rw [hfinished.trans (finish_error he _ _ _)]
    exact ⟨rfl, rfl, rfl⟩

end

/-- A document that asks for three nodes. -/
def threeWanted : String :=
  String.join
    ["- nodeResources:\n", "    outcomes:\n", "    - fail:\n",
      "        when: count() < 3\n", "        message: few\n"]

/-- The document, and a directory with two nodes. -/
def twoCollected : FileTree where
  nodes :=
    [(["run.yaml"], .file threeWanted.toUTF8.toList),
      (["b"], .directory),
      (["b", "cluster-resources"], .directory),
      (["b", "cluster-resources", "nodes.json"], .file "[{}, {}]".toUTF8.toList)]

/-- A machine whose second worker gets the first turn. -/
def bareMachine : TreeMachine := ⟨[], [], "now", false, [1]⟩

/-- Options that name the directory. -/
def inBundle : GeneralOptions := ⟨some "b", none, false, false⟩

/-- Two nodes where three are wanted is a failure, and a document that is not there is code 2. -/
theorem execute_run_code_two :
    (∃ d, (loadDocument "run.yaml" (twoCollected.read [] "run.yaml")).result = .ok d ∧
      ∃ entry ∈ d.analyzers, entry.Fails (bareMachine.store twoCollected "b")) ∧
    (Command.execute bareMachine.host ⟨inBundle, .run "no.yaml" false none⟩ twoCollected).1.code =
      2 := by
  have hsettings : (Command.loadSettings bareMachine.host twoCollected).1 =
      .ok ⟨none, none, false⟩ := toOption_eq_some_iff.1 (by decide +kernel)
  have hformat : (⟨none, none, false⟩ : Settings).formatOr inBundle.format = .ok .table := rfl
  have hload := toOption_eq_some_iff.1 <| Option.eq_some_of_isSome <|
    show (loadDocument "run.yaml" (twoCollected.read [] "run.yaml")).result.toOption.isSome = true
    by decide +kernel
  have hbundle : twoCollected.isDirectory [] "b" = true := by decide +kernel
  have hwritable : bareMachine.Writable twoCollected "out" :=
    ⟨[], _, toOption_eq_some_iff.1 (Option.eq_some_of_isSome (by decide +kernel))⟩
  have hcode : (Command.execute bareMachine.host
      ⟨inBundle, .run "run.yaml" true (some "out")⟩ twoCollected).1.code = 1 := by decide +kernel
  have hmissing : (loadDocument "no.yaml" (twoCollected.read [] "no.yaml")).result.isOk = false :=
    by decide +kernel
  refine ⟨⟨_, hload, ?_⟩, ?_⟩
  · exact (((execute_run_code hsettings hformat).1 _ hload hbundle
      fun _ hfile => Option.some.inj hfile ▸ hwritable).1).1 hcode
  · refine ((execute_run_code hsettings hformat).2 (.inl fun d hd => ?_)).1
    exact nomatch (congrArg Except.isOk hd).symm.trans hmissing

end NodeFit
