import NodeFit.Proofs.Analysis
import NodeFit.Proofs.Run
import NodeFit.Session

/-!
# NodeFit.Proofs.Session

Numbers account for what a session has done.

Every number grows by how often its tick occurs (`Counters.number_tickAll`).  The ticks of
an entry account for its result, for an error and for its kinds that are not evaluated
(`account_runOne`); accounts add up along a run (`account_run`) and along the operations of
a session (`account_steps`), whatever happens to the store in between.

`Account` is the invariant.  It ties a list of ticks to results, by their verdicts and by
whether they were skipped, and to two plain numbers, those of errors and of analyzers that
are not evaluated.  It holds of nothing and adds up (`Account.nil`, `Account.append`), so that
every level of a session needs to look at its own ticks only.

The numbers at the end are stated from the operations and their answers
(`steps_counters`): what was reported, which entries ended in an error, and how many foreign
bodies the entries hold (`unsupportedIn`).
-/

namespace NodeFit

/-! ## Numbers -/

namespace Counters

/-- The number that a tick raises. -/
def number (c : Counters) : Tick → Nat
  | .result v => c.results v
  | .skipped => c.skipped
  | .error => c.errors
  | .unsupported => c.unsupported
  | .evaluation => c.evaluations

/-- A tick raises its own number and no other. -/
theorem number_tick (c : Counters) (s t : Tick) :
    (c.tick s).number t = c.number t + if s = t then 1 else 0 := by
  rcases s with (_ | _ | _ | _) | _ | _ | _ | _ <;>
    rcases t with (_ | _ | _ | _) | _ | _ | _ | _ <;> rfl

/-- **A number grows by how often its tick occurs.** -/
theorem number_tickAll (c : Counters) (ticks : List Tick) (t : Tick) :
    (c.tickAll ticks).number t = c.number t + ticks.count t := by
  induction ticks generalizing c with
  | nil => rfl
  | cons s rest ih =>
      change ((c.tick s).tickAll rest).number t = _
      rw [ih, number_tick, List.count_cons]
      by_cases h : s = t <;> simp [h]
      omega

theorem tickAll_append (c : Counters) (ticks ticks' : List Tick) :
    c.tickAll (ticks ++ ticks') = (c.tickAll ticks).tickAll ticks' :=
  List.foldl_append

end Counters

/-! ## Accounts -/

/-- Ticks account for results by their verdicts and for skipped ones among them, for errors,
and for analyzers that are not evaluated. -/
structure Account (ticks : List Tick) (results : List AnalysisResult)
    (errors unsupported : Nat) : Prop where
  verdict : ∀ v, ticks.count (.result v) = results.countP fun r => r.verdict = v
  skipped : ticks.count .skipped = results.countP fun r => r.skipped
  error : ticks.count .error = errors
  unsupported : ticks.count .unsupported = unsupported

namespace Account

theorem nil : Account [] [] 0 0 := ⟨fun _ => rfl, rfl, rfl, rfl⟩

/-- Accounts of two lists of ticks add up. -/
theorem append {ticks ticks' : List Tick} {results results' : List AnalysisResult}
    {errors errors' unsupported unsupported' : Nat}
    (h : Account ticks results errors unsupported)
    (h' : Account ticks' results' errors' unsupported') :
    Account (ticks ++ ticks') (results ++ results') (errors + errors')
      (unsupported + unsupported') where
  verdict v := by rw [List.count_append, List.countP_append, h.verdict, h'.verdict]
  skipped := by rw [List.count_append, List.countP_append, h.skipped, h'.skipped]
  error := by rw [List.count_append, h.error, h'.error]
  unsupported := by rw [List.count_append, h.unsupported, h'.unsupported]

theorem error_tick : Account [.error] [] 1 0 := ⟨fun _ => rfl, rfl, rfl, rfl⟩

theorem evaluation_tick : Account [.evaluation] [] 0 0 := ⟨fun _ => rfl, rfl, rfl, rfl⟩

/-- A number of analyzers that are not evaluated. -/
theorem unsupported_ticks (n : Nat) : Account (List.replicate n .unsupported) [] 0 n := by
  constructor <;> simp [List.count_replicate]

/-- The ticks of a result account for it. -/
theorem result_ticks (r : AnalysisResult) : Account r.ticks [r] 0 0 := by
  unfold AnalysisResult.ticks
  cases hs : r.skipped <;> constructor <;> simp [hs, List.count_cons]

end Account

/-! ## Entries -/

theorem ticks_append (effects effects' : List Effect) :
    Effect.ticks (effects ++ effects') = Effect.ticks effects ++ Effect.ticks effects' :=
  List.filterMap_append

theorem ticks_count (ticks : List Tick) : Effect.ticks (ticks.map .count) = ticks := by
  induction ticks with
  | nil => rfl
  | cons t rest ih => exact congrArg (t :: ·) ih

/-- A report counts the result. -/
theorem ticks_report (r : AnalysisResult) : Effect.ticks r.report = r.ticks := by
  rw [AnalysisResult.report, ticks_append, ticks_count]
  exact List.append_nil _

/-- An entry counts each of its kinds that are not evaluated. -/
theorem ticks_skips (entry : AnalyzerEntry) :
    Effect.ticks entry.skips = List.replicate entry.unsupportedKinds.length .unsupported := by
  unfold AnalyzerEntry.skips
  induction entry.unsupportedKinds with
  | nil => rfl
  | cons kind rest ih => exact congrArg (Tick.unsupported :: ·) ih

/-- The analysis of an entry ends in an error. -/
def AnalyzerEntry.errs (store : Store) (entry : AnalyzerEntry) : Bool :=
  !(entry.analyze store).isOk

/-- A check that has been analysed counts its result, after an error if there was one. -/
theorem account_conclude (check : NodeCheck) (store : Store)
    (outcome : Except AnalyzeError AnalysisResult) :
    Account (Effect.ticks ((check.conclude outcome).run store).effects)
      ((check.conclude outcome).run store).value.toList (if !outcome.isOk then 1 else 0) 0 := by
  cases outcome with
  | ok r =>
      simp only [NodeCheck.conclude, Work.report, Work.run_acts, Work.run, List.append_nil,
        ticks_report]
      exact .result_ticks r
  | error e =>
      simp only [NodeCheck.conclude, Work.report, Work.run_acts, Work.run, List.append_nil,
        ticks_append, ticks_report]
      exact Account.error_tick.append (.result_ticks _)

/-- **What an entry counts** accounts for its result, for its error and for the kinds that
are not evaluated. -/
theorem account_runOne (store : Store) (entry : AnalyzerEntry) :
    Account (Effect.ticks (runOne store entry).effects) (runOne store entry).value.toList
      (if entry.errs store then 1 else 0) entry.unsupportedKinds.length := by
  rw [runOne, AnalyzerEntry.work, Work.run_acts, ticks_append, ticks_skips]
  have hskips := Account.unsupported_ticks entry.unsupportedKinds.length
  cases h : entry.nodeResources with
  | none =>
      have herrs : entry.errs store = false := by
        simp only [AnalyzerEntry.errs, AnalyzerEntry.analyze, h]
        rfl
      rw [herrs]
      exact hskips.append .nil
  | some check =>
      have herrs : entry.errs store = !(analyze check store).isOk := by
        simp only [AnalyzerEntry.errs, AnalyzerEntry.analyze, h]
        cases analyze check store <;> rfl
      have hcheck := Account.evaluation_tick.append
        (account_conclude check store (analyze check store))
      have hall := hskips.append hcheck
      rw [herrs]
      change Account (_ ++
        ([.evaluation] ++ Effect.ticks ((check.conclude (analyze check store)).run store).effects))
        ((check.conclude (analyze check store)).run store).value.toList _ _
      simpa only [List.nil_append, Nat.zero_add, Nat.add_zero] using hall

/-! ## Runs -/

/-- The number of analyzers in some entries that are not evaluated.  An entry has one for each
key under which it holds a foreign body. -/
def unsupportedIn (entries : List AnalyzerEntry) : Nat :=
  (entries.flatMap fun entry => entry.unsupported.toList).length

/-- An entry tells as many kinds as it holds foreign bodies. -/
theorem length_unsupportedKinds (entry : AnalyzerEntry) :
    entry.unsupportedKinds.length = entry.unsupported.toList.length :=
  List.length_map ..

theorem unsupportedIn_cons (entry : AnalyzerEntry) (rest : List AnalyzerEntry) :
    unsupportedIn (entry :: rest) = entry.unsupportedKinds.length + unsupportedIn rest := by
  rw [unsupportedIn, List.flatMap_cons, List.length_append, length_unsupportedKinds]
  rfl

/-- The analyzers that are not evaluated add up over two lists of entries. -/
theorem unsupportedIn_append (entries entries' : List AnalyzerEntry) :
    unsupportedIn (entries ++ entries') = unsupportedIn entries + unsupportedIn entries' := by
  simp [unsupportedIn]

/-- What entries count accounts for their results, errors and kinds that are not evaluated. -/
theorem account_entries (store : Store) (entries : List AnalyzerEntry) :
    Account (Effect.ticks (entries.flatMap fun entry => (runOne store entry).effects))
      (entries.filterMap fun entry => (runOne store entry).value)
      (entries.countP fun entry => entry.errs store) (unsupportedIn entries) := by
  induction entries with
  | nil => exact .nil
  | cons entry rest ih =>
      have hall := (account_runOne store entry).append ih
      have hvalue : (entry :: rest).filterMap (fun entry => (runOne store entry).value) =
          (runOne store entry).value.toList
            ++ rest.filterMap fun entry => (runOne store entry).value := by
        rw [List.filterMap_cons]
        cases (runOne store entry).value <;> rfl
      rw [List.flatMap_cons, ticks_append, hvalue, List.countP_cons, Nat.add_comm,
        unsupportedIn_cons]
      exact hall

/-- **What a run counts** accounts for its results, and for the errors and the kinds that are
not evaluated of its entries. -/
theorem account_run (store : Store) (entries : List AnalyzerEntry) :
    Account (Effect.ticks (run store entries).effects) (run store entries).value
      (entries.countP fun entry => entry.errs store) (unsupportedIn entries) := by
  have heffects : Effect.ticks (run store entries).effects =
      Effect.ticks (entries.flatMap fun entry => (runOne store entry).effects) := by
    rw [run_effects, ticks_append]
    exact List.append_nil _
  have hvalue : (run store entries).value =
      entries.filterMap fun entry => (runOne store entry).value := by
    change (entries.map (runOne store)).filterMap Trace.value = _
    rw [List.filterMap_map]
    rfl
  rw [heffects, hvalue]
  exact account_entries store entries

/-! ## Operations -/

namespace SessionStep

/-- The entries that an operation carries out. -/
def entries : SessionStep → List AnalyzerEntry
  | .runOne entry => [entry]
  | .run entries => entries
  | _ => []

/-- The results that an operation has by its answer, or that it records. -/
def reported : SessionStep → SessionAnswer → List AnalysisResult
  | .record r, _ => [r]
  | .runOne _, .result r => r.toList
  | .run _, .results rs => rs
  | _, _ => []

/-- What an operation counts for no other reason than to count it. -/
def bump? : SessionStep → Option Tick
  | .error => some .error
  | .unsupported => some .unsupported
  | _ => none

end SessionStep

/-- An operation accounts for what it answers and records. -/
theorem account_effectsOf (store : MemoryStore) (operation : SessionStep) :
    Account (Effect.ticks (Session.effectsOf store operation).effects)
      (operation.reported (Session.effectsOf store operation).value)
      (operation.entries.countP (fun entry => entry.errs store.toStore)
        + if operation.bump? = some .error then 1 else 0)
      (unsupportedIn operation.entries + if operation.bump? = some .unsupported then 1 else 0) := by
  cases operation with
  | insert key bytes => exact .nil
  | protect key bytes => exact .nil
  | analyze entry => exact .nil
  | runOne entry =>
      have h := account_runOne store.toStore entry
      have herrors : [entry].countP (fun entry => entry.errs store.toStore) =
          if entry.errs store.toStore then 1 else 0 := List.countP_singleton
      have hunsupported : unsupportedIn [entry] = entry.unsupportedKinds.length :=
        unsupportedIn_cons entry []
      rw [← herrors, ← hunsupported] at h
      exact h
  | run entries => exact account_run store.toStore entries
  | record result =>
      simp only [Session.effectsOf, ticks_count]
      exact .result_ticks result
  | summary results => exact .nil
  | error => exact .error_tick
  | unsupported => exact .unsupported_ticks 1

/-! ## Sessions -/

namespace Session

/-- The entries that are carried out in a session, each with the store of that time. -/
def carriedOut (store : MemoryStore) : List SessionStep → List (MemoryStore × AnalyzerEntry)
  | [] => []
  | operation :: rest =>
    operation.entries.map (fun entry => (store, entry))
      ++ carriedOut (storeAfter store operation) rest

/-- The results that operations report, given their answers. -/
def reported (operations : List SessionStep) (answers : List SessionAnswer) :
    List AnalysisResult :=
  (operations.zip answers).flatMap fun (operation, answer) => operation.reported answer

/-- A session carries out its first operation and goes on from the store and the numbers that it
leaves. -/
theorem steps_cons (s : Session) (operation : SessionStep) (rest : List SessionStep) :
    s.steps (operation :: rest) =
      (((s.step operation).1.steps rest).1,
        effectsOf s.store operation :: ((s.step operation).1.steps rest).2) := rfl

/-- The numbers of a session are what its effects count. -/
theorem counters_steps (s : Session) (operations : List SessionStep) :
    (s.steps operations).1.counters =
      s.counters.tickAll (Effect.ticks ((s.steps operations).2.flatMap Trace.effects)) := by
  induction operations generalizing s with
  | nil => rfl
  | cons operation rest ih =>
      rw [steps_cons, ih, List.flatMap_cons, ticks_append, Counters.tickAll_append]
      rfl

/-- **A session accounts for all that its operations report.** -/
theorem account_steps (s : Session) (operations : List SessionStep) :
    Account (Effect.ticks ((s.steps operations).2.flatMap Trace.effects))
      (reported operations ((s.steps operations).2.map Trace.value))
      ((carriedOut s.store operations).countP (fun x => x.2.errs x.1.toStore)
        + operations.countP fun operation => operation.bump? = some .error)
      (unsupportedIn ((carriedOut s.store operations).map Prod.snd)
        + operations.countP fun operation => operation.bump? = some .unsupported) := by
  induction operations generalizing s with
  | nil => exact .nil
  | cons operation rest ih =>
      -- The account of the first operation and that of the others, brought to the form of one.
      have hall := (account_effectsOf s.store operation).append (ih (s.step operation).1)
      have herrors : (carriedOut s.store (operation :: rest)).countP
            (fun x => x.2.errs x.1.toStore) =
          operation.entries.countP (fun entry => entry.errs s.store.toStore)
            + (carriedOut (s.step operation).1.store rest).countP
                (fun x => x.2.errs x.1.toStore) := by
        rw [carriedOut, List.countP_append, List.countP_map]
        rfl
      have hunsupported : unsupportedIn ((carriedOut s.store (operation :: rest)).map Prod.snd) =
          unsupportedIn operation.entries
            + unsupportedIn ((carriedOut (s.step operation).1.store rest).map Prod.snd) := by
        have hfst : (operation.entries.map fun entry => (s.store, entry)).map Prod.snd =
            operation.entries := by
          rw [List.map_map]
          exact List.map_id _
        rw [carriedOut, List.map_append, hfst, unsupportedIn_append]
        rfl
      rw [steps_cons, List.flatMap_cons, ticks_append, herrors, hunsupported, List.countP_cons,
        List.countP_cons, Nat.add_comm (rest.countP _), Nat.add_comm (rest.countP _),
        Nat.add_add_add_comm, Nat.add_add_add_comm (unsupportedIn _)]
      simp only [decide_eq_true_eq]
      exact hall

/-- Every operation has an answer. -/
theorem length_steps (s : Session) (operations : List SessionStep) :
    (s.steps operations).2.length = operations.length := by
  induction operations generalizing s with
  | nil => rfl
  | cons operation rest ih => rw [steps_cons, List.length_cons, ih, List.length_cons]

end Session

/-! ## One run -/

/-- A check that was skipped is reported with a warning. -/
theorem verdict_of_skipped {check : NodeCheck} {store : Store} {r : AnalysisResult}
    (h : analyze check store = .ok r) (hr : r.skipped = true) : r.verdict = some .warn := by
  rcases analyze_eq_ok_iff.1 h with ⟨_, _, -, -, rfl⟩ | ⟨_, chosen, -, rfl⟩
  · rfl
  · cases chosen <;> contradiction

/-- What an entry contributes: a result for each check, a failed one for each error, and none
that is skipped without a warning. -/
theorem contribution_counts (store : Store) (entry : AnalyzerEntry) :
    (entry.contribution store).length = (if entry.nodeResources.isSome then 1 else 0) ∧
    (if entry.errs store then 1 else 0) ≤
      (entry.contribution store).countP (fun r => r.verdict = some .fail) ∧
    (entry.contribution store).countP (fun r => r.skipped) ≤
      (entry.contribution store).countP (fun r => r.verdict = some .warn) := by
  unfold AnalyzerEntry.contribution AnalyzerEntry.errs AnalyzerEntry.analyze
  cases entry.nodeResources with
  | none => simp [Except.isOk, Except.toBool]
  | some check =>
      cases h : analyze check store with
      | error e => simp [h, Except.map, Except.isOk, Except.toBool]
      | ok r =>
          have hskipped := verdict_of_skipped h
          cases hr : r.skipped <;> simp_all [Except.map, Except.isOk, Except.toBool]

/-- Entries contribute one result for each check, and no more errors than failures. -/
theorem contributions_counts (store : Store) (entries : List AnalyzerEntry) :
    (entries.flatMap fun entry => entry.contribution store).length =
      entries.countP (fun entry => entry.nodeResources.isSome) ∧
    entries.countP (fun entry => entry.errs store) ≤
      (entries.flatMap fun entry => entry.contribution store).countP
        (fun r => r.verdict = some .fail) ∧
    (entries.flatMap fun entry => entry.contribution store).countP (fun r => r.skipped) ≤
      (entries.flatMap fun entry => entry.contribution store).countP
        (fun r => r.verdict = some .warn) := by
  induction entries with
  | nil => simp
  | cons entry rest ih =>
      obtain ⟨hlength, herrors, hskipped⟩ := contribution_counts store entry
      obtain ⟨ihlength, iherrors, ihskipped⟩ := ih
      simp only [List.flatMap_cons, List.length_append, List.countP_append, List.countP_cons]
      omega

/-- Every result has one of the three verdicts or none. -/
theorem countP_verdicts (results : List AnalysisResult) :
    results.countP (fun r => r.verdict = some .fail)
      + results.countP (fun r => r.verdict = some .warn)
      + results.countP (fun r => r.verdict = some .pass)
      + results.countP (fun r => r.verdict = none) = results.length := by
  induction results with
  | nil => rfl
  | cons r rest ih =>
      simp only [List.countP_cons, List.length_cons]
      rcases r.verdict with _ | _ | _ | _ <;> simp <;> omega

/-- A run counts one verdict for each check, no more errors than failures, and no more
skipped results than warnings. -/
theorem step_run_counters (s : Session) (entries : List AnalyzerEntry) :
    let before := s.counters
    let after := (s.step (.run entries)).1.counters
    after.fail + after.warn + after.pass + after.none =
      before.fail + before.warn + before.pass + before.none
        + entries.countP (fun entry => entry.nodeResources.isSome) ∧
    after.errors + before.fail ≤ before.errors + after.fail ∧
    after.skipped + before.warn ≤ before.skipped + after.warn := by
  intro before after
  have haccount := account_run s.store.toStore entries
  have hverdicts := countP_verdicts (run s.store.toStore entries).value
  have hnumber := before.number_tickAll
    (Effect.ticks (run s.store.toStore entries).effects)
  have hfail : after.fail = _ := (hnumber (.result (some .fail))).trans
    (congrArg _ (haccount.verdict _))
  have hwarn : after.warn = _ := (hnumber (.result (some .warn))).trans
    (congrArg _ (haccount.verdict _))
  have hpass : after.pass = _ := (hnumber (.result (some .pass))).trans
    (congrArg _ (haccount.verdict _))
  have hnone : after.none = _ := (hnumber (.result none)).trans (congrArg _ (haccount.verdict _))
  have hskipped : after.skipped = _ := (hnumber .skipped).trans (congrArg _ haccount.skipped)
  have herrors : after.errors = _ := (hnumber .error).trans (congrArg _ haccount.error)
  obtain ⟨hlength, hle, hle'⟩ := contributions_counts s.store.toStore entries
  rw [← run_value] at hlength hle hle'
  simp only [Counters.number, Counters.results] at hfail hwarn hpass hnone hskipped herrors
  omega

/-- **Numbers account for what a session has done**, from any numbers and any store on.  The
number of each verdict, and that of skipped results, grows by the results that entries come to
and that are recorded; errors and analyzers that are not evaluated grow by those of the entries
that are carried out, and by one for each time that they are counted by hand.  Analyses and
summaries change nothing.  So a run counts one verdict for each check, no more errors than
failures, and no more skipped results than warnings. -/
theorem steps_counters (s : Session) (operations : List SessionStep) :
    let before := s.counters
    let after := (s.steps operations).1.counters
    let answers := (s.steps operations).2.map Trace.value
    let results := Session.reported operations answers
    let entries := Session.carriedOut s.store operations
    answers.length = operations.length ∧
    after.fail = before.fail + results.countP (fun r => r.verdict = some .fail) ∧
    after.warn = before.warn + results.countP (fun r => r.verdict = some .warn) ∧
    after.pass = before.pass + results.countP (fun r => r.verdict = some .pass) ∧
    after.none = before.none + results.countP (fun r => r.verdict = none) ∧
    after.skipped = before.skipped + results.countP (fun r => r.skipped) ∧
    after.errors = before.errors + (entries.countP (fun x => x.2.errs x.1.toStore)
      + operations.countP fun operation => operation.bump? = some .error) ∧
    after.unsupported = before.unsupported + (unsupportedIn (entries.map Prod.snd)
      + operations.countP fun operation => operation.bump? = some .unsupported) ∧
    (∀ entry, (s.step (.analyze entry)).1 = s) ∧ (∀ rs, (s.step (.summary rs)).1 = s) ∧
    ∀ declared : List AnalyzerEntry,
      let after := (s.step (.run declared)).1.counters
      after.fail + after.warn + after.pass + after.none =
        before.fail + before.warn + before.pass + before.none
          + declared.countP (fun entry => entry.nodeResources.isSome) ∧
      after.errors + before.fail ≤ before.errors + after.fail ∧
      after.skipped + before.warn ≤ before.skipped + after.warn := by
  intro before after answers results entries
  have haccount := Session.account_steps s operations
  have hnumber := before.number_tickAll
    (Effect.ticks ((s.steps operations).2.flatMap Trace.effects))
  rw [← Session.counters_steps] at hnumber
  have hverdict (v : Option Verdict) :
      after.number (.result v) =
        before.number (.result v) + results.countP fun r => r.verdict = v :=
    (hnumber (.result v)).trans (congrArg _ (haccount.verdict v))
  refine ⟨?_, hverdict (some .fail), hverdict (some .warn), hverdict (some .pass), hverdict none,
    ?_, ?_, ?_, fun _ => rfl, fun _ => rfl, step_run_counters s⟩
  · rw [List.length_map, Session.length_steps]
  · exact (hnumber .skipped).trans (congrArg _ haccount.skipped)
  · exact (hnumber .error).trans (congrArg _ haccount.error)
  · exact (hnumber .unsupported).trans (congrArg _ haccount.unsupported)

/-- A check that has nothing to say, beside two analyzers that are not evaluated. -/
def silentEntry : AnalyzerEntry :=
  ⟨some ⟨"", ⟨none, []⟩, ⟨none, none, none⟩⟩, .ofList [("distribution", .null), ("ceph", .null)]⟩

/-- The entry is carried out before its list of nodes is collected, and again behind it. -/
def recollection : List SessionStep :=
  [.runOne silentEntry, .insert "cluster-resources/nodes.json" "[]".toUTF8.toList,
    .run [silentEntry, ⟨none, .ofList [("mysql", .null)]⟩],
    .record ((AnalysisResult.ofCheckName "").skip "not now"), .analyze silentEntry, .error,
    .unsupported, .summary []]

/-- An entry that is carried out without nodes and again with them counts an error and a failure,
then a result without a verdict, and twice two analyzers that are not evaluated. -/
theorem steps_counters_recollection :
    let after := (Session.start.steps recollection).1.counters
    after.fail = 1 ∧ after.warn = 1 ∧ after.pass = 0 ∧ after.none = 1 ∧ after.skipped = 1 ∧
      after.errors = 2 ∧ after.unsupported = 6 := by
  obtain ⟨-, hfail, hwarn, hpass, hnone, hskipped, herrors, hunsupported, -⟩ :=
    steps_counters Session.start recollection
  exact ⟨hfail.trans (by decide +kernel), hwarn.trans (by decide +kernel),
    hpass.trans (by decide +kernel), hnone.trans (by decide +kernel),
    hskipped.trans (by decide +kernel), herrors.trans (by decide +kernel),
    hunsupported.trans (by decide +kernel)⟩

end NodeFit
