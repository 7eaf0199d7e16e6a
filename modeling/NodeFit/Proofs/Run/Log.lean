import Mathlib.Data.List.Forall2
import NodeFit.Command.Log
import NodeFit.Proofs.Run
import NodeFit.Proofs.Session

/-!
# NodeFit.Proofs.Run.Log

What the log of a run says about the run.

A line of the log is told by its level, the event that it names, and details.  `Logged`
lists the lines of some entries beside the results that these come to; the records of a
run are those lines in the same order, and behind them the summary of the results
(`run_logged`).

The lines are written down here as they are read in the log, with their levels, event names
and labels of verdicts (`verdictWord`), and apart from the events that a run emits.  `WrittenAs`
then says of a record that it is written for a line: it has the level, and holds exactly the
fields of the line and the bundle.  There are five kinds of line:

* an analyzer of a kind that is not evaluated was skipped,
* a check started, failed, or was completed with a title and a verdict,
* a run ended with so many results of each verdict.
-/

namespace NodeFit

/-! ## Lines -/

/-- What a record says: how grave it is, what has happened, and more about it. -/
structure LogLine where
  level : Level
  event : String
  details : List (String × Json)

/-- The word for the verdict of a result. -/
def verdictWord : Option Verdict → String
  | some .fail => "fail"
  | some .warn => "warn"
  | some .pass => "pass"
  | none => "none"

/-- The label of a verdict in an event is its word in the log. -/
theorem verdictLabel_eq_verdictWord (v : Option Verdict) : verdictLabel v = verdictWord v := by
  rcases v with _ | _ | _ | _ <;> rfl

namespace LogLine

/-- An analyzer of a kind that is not evaluated is left out. -/
def skipped (kind : String) : LogLine := ⟨.info, "analysis_skipped", [("analyzer", .text kind)]⟩

/-- A check begins. -/
def started (checkName : String) : LogLine :=
  ⟨.info, "analysis_started", [("check_name", .text checkName)]⟩

/-- A check could not be carried out. -/
def failed (checkName error : String) : LogLine :=
  ⟨.warn, "analysis_failed", [("check_name", .text checkName), ("error", .text error)]⟩

/-- A check has its result. -/
def completed (r : AnalysisResult) : LogLine :=
  ⟨.info, "analysis_completed",
    [("title", .text r.title), ("verdict", .text (verdictWord r.verdict)),
      ("message", .text r.message)]⟩

/-- A run has these results. -/
def summary (results : List AnalysisResult) : LogLine :=
  let fails := results.countP fun r => r.verdict = some .fail
  let warns := results.countP fun r => r.verdict = some .warn
  let passes := results.countP fun r => r.verdict = some .pass
  ⟨if 0 < fails then .warn else .info, "run_completed",
    [("total", .int results.length), ("fail", .int fails), ("warn", .int warns),
      ("pass", .int passes)]⟩

/-- A record is written for a line about a bundle. -/
structure WrittenAs (bundle : String) (line : LogLine) (record : LogRecord) : Prop where
  level : record.level = line.level
  event : record.fields.lookup "event" = some (.text line.event)
  bundle : record.fields.lookup "bundle" = some (.text bundle)
  details : ∀ detail ∈ line.details, record.fields.lookup detail.1 = some detail.2

end LogLine

/-- The lines about some entries, beside the results that the entries come to.  Kinds that are
not evaluated come first, then the check, if there is one. -/
inductive Logged (store : Store) :
    List AnalyzerEntry → List AnalysisResult → List LogLine → Prop where
  | nil : Logged store [] [] []
  | unchecked {entry : AnalyzerEntry} {rest : List AnalyzerEntry}
      {results : List AnalysisResult} {lines : List LogLine} :
      entry.nodeResources = none → Logged store rest results lines →
      Logged store (entry :: rest) results (entry.unsupportedKinds.map .skipped ++ lines)
  | analysed {entry : AnalyzerEntry} {rest : List AnalyzerEntry}
      {results : List AnalysisResult} {lines : List LogLine} {check : NodeCheck}
      {r : AnalysisResult} :
      entry.nodeResources = some check → analyze check store = .ok r →
      Logged store rest results lines →
      Logged store (entry :: rest) (r :: results)
        (entry.unsupportedKinds.map .skipped ++
          ([.started check.name, .completed r] ++ lines))
  | failed {entry : AnalyzerEntry} {rest : List AnalyzerEntry}
      {results : List AnalysisResult} {lines : List LogLine} {check : NodeCheck}
      {e : AnalyzeError} {r : AnalysisResult} :
      entry.nodeResources = some check → analyze check store = .error e →
      Logged store rest results lines →
      Logged store (entry :: rest) (r :: results)
        (entry.unsupportedKinds.map .skipped ++
          ([.started check.name, .failed check.name e.message, .completed r] ++ lines))

/-! ## Events -/

theorem events_append (effects effects' : List Effect) :
    Effect.events (effects ++ effects') = Effect.events effects ++ Effect.events effects' :=
  List.filterMap_append

theorem events_report (r : AnalysisResult) : Effect.events r.report = [.ofResult r] := by
  unfold AnalysisResult.report AnalysisResult.ticks
  cases r.skipped <;> rfl

/-- An entry tells its kinds that are not evaluated, in their order. -/
theorem events_skips (entry : AnalyzerEntry) :
    Effect.events entry.skips = entry.unsupportedKinds.map .analysisSkipped := by
  unfold AnalyzerEntry.skips
  induction entry.unsupportedKinds with
  | nil => rfl
  | cons kind rest ih => exact congrArg (Event.analysisSkipped kind :: ·) ih

/-- The kinds of an entry that are not evaluated are told before its check. -/
theorem events_runOne (store : Store) (entry : AnalyzerEntry) :
    Effect.events (runOne store entry).effects =
      entry.unsupportedKinds.map .analysisSkipped ++
        Effect.events ((entry.nodeResources.elim (.done none) NodeCheck.work).run store).effects := by
  rw [runOne, AnalyzerEntry.work, Work.run_acts, events_append, events_skips]

/-- A check is told with its start, its error if there is one, and its result. -/
theorem events_work (store : Store) (check : NodeCheck) :
    Effect.events (check.work.run store).effects =
      .analysisStarted check.name :: match analyze check store with
        | .ok r => [.ofResult r]
        | .error e => [.analysisFailed check.name e.message, .ofResult (.failed e.message)] := by
  simp only [NodeCheck.work, Work.run, NodeCheck.conclude, Work.report]
  cases analyze check store with
  | ok r =>
      simp only [Work.run_acts, Work.run, List.append_nil]
      exact congrArg (Event.analysisStarted check.name :: ·) (events_report r)
  | error e =>
      simp only [Work.run_acts, Work.run, List.append_nil]
      rfl

/-! ## Records -/

/-- The records of what some effects tell about a bundle. -/
def Effect.records (bundle : String) (effects : List Effect) : List LogRecord :=
  (events effects).map (.ofEvent bundle)

/-- The number of results with a verdict is counted over the results. -/
theorem countVerdict_eq (v : Verdict) (results : List AnalysisResult) :
    countVerdict v results = results.countP fun r => r.verdict = some v :=
  List.countP_congr fun r _ => by rw [AnalysisResult.hasVerdict, beq_iff_eq, decide_eq_true_iff]

namespace LogLine

variable (bundle : String)

theorem writtenAs_skipped (kind : String) :
    (skipped kind).WrittenAs bundle (.ofEvent bundle (.analysisSkipped kind)) :=
  ⟨rfl, rfl, rfl, List.forall_mem_singleton.2 rfl⟩

theorem writtenAs_started (checkName : String) :
    (started checkName).WrittenAs bundle (.ofEvent bundle (.analysisStarted checkName)) :=
  ⟨rfl, rfl, rfl, List.forall_mem_singleton.2 rfl⟩

theorem writtenAs_failed (checkName error : String) :
    (failed checkName error).WrittenAs bundle (.ofEvent bundle (.analysisFailed checkName error)) :=
  ⟨rfl, rfl, rfl, List.forall_mem_cons.2 ⟨rfl, List.forall_mem_singleton.2 rfl⟩⟩

/-- The record of a result has its title and the word for its verdict. -/
theorem writtenAs_completed (r : AnalysisResult) :
    (completed r).WrittenAs bundle (.ofEvent bundle (.ofResult r)) := by
  refine ⟨rfl, rfl, rfl, ?_⟩
  simp only [completed, ← verdictLabel_eq_verdictWord, List.forall_mem_cons]
  exact ⟨rfl, rfl, rfl, List.forall_mem_nil _⟩

/-- The record of a summary has the numbers of the results. -/
theorem writtenAs_summary (results : List AnalysisResult) :
    (summary results).WrittenAs bundle (.ofEvent bundle (.summary results)) := by
  have htally : Tally.of results =
      ⟨results.length, results.countP fun r => r.verdict = some .fail,
        results.countP fun r => r.verdict = some .warn,
        results.countP fun r => r.verdict = some .pass⟩ := by
    simp only [Tally.of, countVerdict_eq]
  rw [Event.summary, htally]
  refine ⟨rfl, rfl, rfl, ?_⟩
  simp only [summary, List.forall_mem_cons]
  exact ⟨rfl, rfl, rfl, rfl, List.forall_mem_nil _⟩

end LogLine

/-! ## Runs -/

/-- A record is written for each line. -/
abbrev WrittenAll (bundle : String) : List LogLine → List LogRecord → Prop :=
  List.Forall₂ (LogLine.WrittenAs bundle)

/-- The records of kinds that are not evaluated are written for their lines. -/
theorem writtenAll_skips (bundle : String) (kinds : List String) :
    WrittenAll bundle (kinds.map .skipped)
      ((kinds.map Event.analysisSkipped).map (.ofEvent bundle)) := by
  rw [List.map_map, WrittenAll, List.forall₂_map_left_iff, List.forall₂_map_right_iff,
    List.forall₂_same]
  exact fun kind _ => LogLine.writtenAs_skipped bundle kind

/-- **One more entry** adds its lines and its result in front of those of the others. -/
theorem exists_logged_cons {store : Store} {bundle : String} {rest : List AnalyzerEntry}
    {results : List AnalysisResult} {lines : List LogLine} {records : List LogRecord}
    (entry : AnalyzerEntry) (h : Logged store rest results lines)
    (hrecords : WrittenAll bundle lines records) :
    ∃ lines', Logged store (entry :: rest) (entry.contribution store ++ results) lines' ∧
      WrittenAll bundle lines' (Effect.records bundle (runOne store entry).effects ++ records) := by
  have hskips := writtenAll_skips bundle entry.unsupportedKinds
  rw [Effect.records, events_runOne, List.map_append, List.append_assoc,
    AnalyzerEntry.contribution]
  cases hentry : entry.nodeResources with
  | none => exact ⟨_, .unchecked hentry h, List.rel_append hskips hrecords⟩
  | some check =>
      have hstarted := LogLine.writtenAs_started bundle check.name
      simp only [Option.elim_some, events_work]
      cases hanalyze : analyze check store with
      | ok r =>
          refine ⟨_, .analysed hentry hanalyze h, List.rel_append hskips ?_⟩
          exact .cons hstarted (.cons (LogLine.writtenAs_completed bundle r) hrecords)
      | error e =>
          have hfailed := LogLine.writtenAs_failed bundle check.name e.message
          have hcompleted := LogLine.writtenAs_completed bundle (.failed e.message)
          refine ⟨_, .failed hentry hanalyze h, List.rel_append hskips ?_⟩
          exact .cons hstarted (.cons hfailed (.cons hcompleted hrecords))

/-- Entries are told one after the other, each with its result. -/
theorem exists_logged (store : Store) (bundle : String) (entries : List AnalyzerEntry) :
    ∃ lines, Logged store entries (entries.flatMap fun entry => entry.contribution store) lines ∧
      WrittenAll bundle lines
        (Effect.records bundle (entries.flatMap fun entry => (runOne store entry).effects)) := by
  induction entries with
  | nil => exact ⟨[], .nil, List.Forall₂.nil⟩
  | cons entry rest ih =>
      obtain ⟨lines, hlogged, hrecords⟩ := ih
      obtain ⟨lines', hlogged', hrecords'⟩ := exists_logged_cons entry hlogged hrecords
      refine ⟨lines', hlogged', ?_⟩
      rwa [List.flatMap_cons, Effect.records, events_append, List.map_append]

/-- **The log of a run tells the truth about it.**  Its records are the lines about the entries
in their order, with the results that the run returns, and behind them the summary of these
results; every record names the bundle.  Kinds that are not evaluated stand in the order of
their names, and what the summary leaves to the total are the results without a verdict. -/
theorem run_logged (store : Store) (bundle : String) (entries : List AnalyzerEntry) :
    let results := (run store entries).value
    (∃ lines, Logged store entries results lines ∧
      WrittenAll bundle (lines ++ [.summary results])
        (Effect.records bundle (run store entries).effects)) ∧
    (∀ entry : AnalyzerEntry, entry.unsupportedKinds.Pairwise (· < ·) ∧
      ∀ kind, kind ∈ entry.unsupportedKinds ↔ (entry.unsupported.get? kind).isSome) ∧
    results.countP (fun r => r.verdict = some .fail)
      + results.countP (fun r => r.verdict = some .warn)
      + results.countP (fun r => r.verdict = some .pass)
      + results.countP (fun r => r.verdict = none) = results.length := by
  intro results
  refine ⟨?_, fun entry => ⟨?_, fun kind => ?_⟩, countP_verdicts results⟩
  · obtain ⟨lines, hlogged, hrecords⟩ := exists_logged store bundle entries
    rw [← run_value] at hlogged
    refine ⟨lines, hlogged, ?_⟩
    rw [run_effects, Effect.records, events_append, List.map_append]
    exact List.rel_append hrecords
      (.cons (LogLine.writtenAs_summary bundle results) List.Forall₂.nil)
  · exact List.pairwise_map.2 entry.unsupported.sorted
  · exact Dictionary.mem_keys_iff

/-- A check that depends on a deployment of a namespace that was not looked at. -/
def lostCheck : NodeCheck :=
  { installCheck with
    name := "lost"
    gating := { installCheck.gating with deployment := some ⟨"other", "web"⟩ } }

/-- Two checks, and two analyzers that are not evaluated. -/
def loggedEntries : List AnalyzerEntry :=
  [⟨some installCheck, .ofList [("distribution", .null), ("ceph", .null)]⟩,
    ⟨some lostCheck, .empty⟩]

/-- The sentence for the deployments that were not collected. -/
def lostMessage : String :=
  "failed to read collected file cluster-resources/deployments/other.json: file was not collected"

/-- The log of two entries: two analyzers that are skipped, a check with a warning, one that ends
in an error, and the summary of both. -/
theorem run_logged_loggedEntries :
    WrittenAll "bundle"
      [⟨.info, "analysis_skipped", [("analyzer", .text "ceph")]⟩,
        ⟨.info, "analysis_skipped", [("analyzer", .text "distribution")]⟩,
        ⟨.info, "analysis_started", [("check_name", .text "")]⟩,
        ⟨.info, "analysis_completed", [("title", .text "Node Resources"),
          ("verdict", .text "warn"), ("message", .text "two nodes")]⟩,
        ⟨.info, "analysis_started", [("check_name", .text "lost")]⟩,
        ⟨.warn, "analysis_failed", [("check_name", .text "lost"), ("error", .text lostMessage)]⟩,
        ⟨.info, "analysis_completed", [("title", .text "Analyzer Failed"),
          ("verdict", .text "fail"), ("message", .text lostMessage)]⟩,
        ⟨.warn, "run_completed",
          [("total", .int 2), ("fail", .int 1), ("warn", .int 1), ("pass", .int 0)]⟩]
      (Effect.records "bundle" (run twoNodes loggedEntries).effects) := by
  have hinstall : analyze installCheck twoNodes =
      .ok { AnalysisResult.ofCheckName "" with
        verdict := some .warn, message := "two nodes", uri := some "docs" } :=
    toOption_eq_some_iff.1 (by decide +kernel)
  have hlost : analyze lostCheck twoNodes =
      .error (.fetch ⟨"cluster-resources/deployments/other.json", .notCollected⟩) := by
    decide +kernel
  have hvalue : (run twoNodes loggedEntries).value =
      [{ AnalysisResult.ofCheckName "" with
        verdict := some .warn, message := "two nodes", uri := some "docs" },
        .failed lostMessage] := by
    decide +kernel
  obtain ⟨⟨lines, hlogged, hwritten⟩, -⟩ := run_logged twoNodes "bundle" loggedEntries
  rw [hvalue] at hlogged hwritten
  -- Of the ways to log an entry, what is known of its analysis leaves one.
  cases hlogged with
  | unchecked hnone _ => contradiction
  | failed hcheck hanalyze _ =>
      cases hcheck
      rw [hinstall] at hanalyze
      contradiction
  | analysed hcheck _ hrest =>
      cases hcheck
      cases hrest with
      | unchecked hnone _ => contradiction
      | analysed hcheck hanalyze _ =>
          cases hcheck
          rw [hlost] at hanalyze
          contradiction
      | failed hcheck hanalyze hnil =>
          cases hcheck
          cases hnil
          rw [hlost] at hanalyze
          cases hanalyze
          exact hwritten

end NodeFit
