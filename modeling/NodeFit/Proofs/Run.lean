import NodeFit.Run

/-!
# NodeFit.Proofs.Run

What a run comes to.

The results of a run are what its entries contribute, in their order
(`run_value`).  What an entry contributes depends on nothing but the entry and the
collected files.  Numbers do not depend on the order in which things are counted
(`Counters.tickAll_perm`).

The effects of a run are those of its entries one after the other, and behind them those that
close it (`run_effects`), so that the counters and the log of a run can each be computed from one
list.
-/

namespace NodeFit

/-! ## Work -/

namespace Work

variable {store : Store}

/-- Effects come before the work that follows them. -/
theorem run_acts (effects : List Effect) (next : Work) :
    (acts effects next).run store =
      ⟨effects ++ (next.run store).effects, (next.run store).value⟩ := by
  induction effects with
  | nil => rfl
  | cons effect rest ih =>
      change (act effect (acts rest next)).run store = _
      rw [run, ih]
      rfl

/-- Effects in front of work do not change what it results in. -/
theorem value_run_acts (effects : List Effect) (next : Work) :
    ((acts effects next).run store).value = (next.run store).value := by
  rw [run_acts]

end Work

/-! ## Contributions -/

/-- What an entry adds to the results of a run. -/
def AnalyzerEntry.contribution (entry : AnalyzerEntry) (store : Store) : List AnalysisResult :=
  match entry.nodeResources with
  | none => []
  | some check =>
    match NodeFit.analyze check store with
    | .ok r => [r]
    | .error e =>
      [{ title := "Analyzer Failed", iconKey := "", iconURI := "", verdict := some .fail,
         message := e.message, uri := none, skipped := false }]

/-- A check that was analysed has its result, or after an error the result that says so. -/
theorem NodeCheck.value_run_conclude (check : NodeCheck) (store : Store)
    (outcome : Except AnalyzeError AnalysisResult) :
    ((check.conclude outcome).run store).value =
      some (match outcome with
        | .ok r => r
        | .error e => .failed e.message) := by
  cases outcome with
  | ok r => simp only [conclude, Work.report, Work.value_run_acts, Work.run]
  | error e => simp only [conclude, Work.report, Work.value_run_acts, Work.run]

/-- An entry results in what it contributes. -/
theorem runOne_value (store : Store) (entry : AnalyzerEntry) :
    (runOne store entry).value.toList = entry.contribution store := by
  rw [runOne, AnalyzerEntry.work, Work.value_run_acts, AnalyzerEntry.contribution]
  cases entry.nodeResources with
  | none => rfl
  | some check =>
      simp only [Option.elim_some, NodeCheck.work, Work.run, NodeCheck.value_run_conclude]
      cases analyze check store with
      | ok r => rfl
      | error e => rfl

/-- **The results of a run are what its entries contribute**, in their order. -/
theorem run_value (store : Store) (entries : List AnalyzerEntry) :
    (run store entries).value = entries.flatMap fun entry => entry.contribution store := by
  induction entries with
  | nil => rfl
  | cons entry rest ih =>
      rw [List.flatMap_cons, ← ih, ← runOne_value]
      change (runOne store entry :: rest.map (runOne store)).filterMap Trace.value = _
      rw [List.filterMap_cons]
      cases (runOne store entry).value <;> rfl

/-- The effects of a run are those of its entries, in their order, and those that close it. -/
theorem run_effects (store : Store) (entries : List AnalyzerEntry) :
    (run store entries).effects =
      (entries.flatMap fun entry => (runOne store entry).effects) ++
        closing (run store entries).value := by
  change (entries.map (runOne store)).flatMap Trace.effects ++ closing (run store entries).value = _
  rw [List.flatMap_map]

/-! ## Counters -/

namespace Counters

/-- Two things are counted in either order. -/
theorem tick_comm (c : Counters) (s t : Tick) : (c.tick s).tick t = (c.tick t).tick s := by
  rcases s with (_ | _ | _ | _) | _ | _ | _ | _ <;>
    rcases t with (_ | _ | _ | _) | _ | _ | _ | _ <;> rfl

/-- **The order of counting does not matter.** -/
theorem tickAll_perm {ticks ticks' : List Tick} (h : ticks.Perm ticks') (c : Counters) :
    c.tickAll ticks = c.tickAll ticks' :=
  h.foldl_eq' (fun s _ t _ c => tick_comm c s t) c

end Counters

end NodeFit
