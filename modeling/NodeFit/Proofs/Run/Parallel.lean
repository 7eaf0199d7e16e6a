import Mathlib.Data.List.Perm.Basic
import NodeFit.Proofs.Run
import NodeFit.Run.Parallel

/-!
# NodeFit.Proofs.Run.Parallel

Carrying out entries at the same time comes to the same as carrying them out in order.

A pool stands for all effects that there have been or are going to be, and for all
results that there are or are going to be.  A turn moves an effect or a result from one
side to the other, so that only their order changes (`turn_effects_perm`,
`turn_outcomes_perm`), and so does a schedule.  Results are put back in the order of the
entries at the end, and numbers do not depend on any order.

A schedule may be any list of turns, fair or not; what is left over when it ends is carried
out behind it (`Pool.finish`).  That workers do not see each other's effects is what makes a
turn simple: the store is only looked at.
-/

namespace NodeFit

/-! ## Workers -/

/-- What a worker is still going to do. -/
def Worker.trace (store : Store) (w : Worker) : Trace (Option AnalysisResult) :=
  w.work.run store

section

variable {store : Store} {w : Worker}

theorem Worker.trace_of_done {result : Option AnalysisResult} (h : w.work = .done result) :
    w.trace store = ⟨[], result⟩ := by
  rw [trace, h, Work.run]

theorem Worker.trace_of_act {effect : Effect} {next : Work} (h : w.work = .act effect next) :
    w.trace store = ⟨effect :: (next.run store).effects, (next.run store).value⟩ := by
  rw [trace, h, Work.run]

theorem Worker.trace_of_look {next : Store → Work} (h : w.work = .look next) :
    w.trace store = (next store).run store := by
  rw [trace, h, Work.run]

end

namespace Pool

variable {store : Store}

/-- All effects of a pool, those to come after those so far. -/
def allEffects (store : Store) (p : Pool) : List Effect :=
  p.effects ++ p.working.flatMap fun w => (w.trace store).effects

/-- All results of a pool by the positions of the entries. -/
def allOutcomes (store : Store) (p : Pool) : List (Nat × Option AnalysisResult) :=
  p.finished ++ p.working.map fun w => (w.position, (w.trace store).value)

/-! ## One turn -/

/-- The workers of a pool are the one at a place and the others. -/
theorem working_perm {p : Pool} {place : Nat} {w : Worker} (h : p.working[place]? = some w) :
    p.working.Perm (w :: p.working.eraseIdx place) := by
  obtain ⟨hlt, rfl⟩ := List.getElem?_eq_some_iff.1 h
  exact (List.getElem_cons_eraseIdx_perm hlt).symm

/-- The same with another worker put in its place. -/
theorem set_perm {p : Pool} {place : Nat} {w : Worker} (h : p.working[place]? = some w)
    (w' : Worker) : (p.working.set place w').Perm (w' :: p.working.eraseIdx place) :=
  List.set_perm_cons_eraseIdx (List.getElem?_eq_some_iff.1 h).1 w'

/-- A turn leaves the same effects, in some order. -/
theorem turn_effects_perm (p : Pool) (place : Nat) :
    ((p.turn store place).allEffects store).Perm (p.allEffects store) := by
  unfold turn
  split
  · exact .refl _
  · next w hw =>
    -- The effects of the worker whose turn it is are brought to the front of those to come.
    have hall := ((working_perm hw).flatMap_right fun w => (w.trace store).effects).append_left
      p.effects
    rw [List.flatMap_cons] at hall
    refine List.Perm.trans ?_ hall.symm
    split
    · next result hwork =>
      rw [Worker.trace_of_done hwork]
      exact .refl _
    · next effect next hwork =>
      have hset := ((set_perm hw { w with work := next }).flatMap_right
        fun w => (w.trace store).effects).append_left (p.effects ++ [effect])
      rw [Worker.trace_of_act hwork]
      refine hset.trans ?_
      rw [List.append_assoc]
      exact .refl _
    · next next hwork =>
      rw [Worker.trace_of_look hwork]
      exact ((set_perm hw _).flatMap_right _).append_left _

/-- A turn leaves the same results, in some order. -/
theorem turn_outcomes_perm (p : Pool) (place : Nat) :
    ((p.turn store place).allOutcomes store).Perm (p.allOutcomes store) := by
  unfold turn
  split
  · exact .refl _
  · next w hw =>
    have hall := ((working_perm hw).map fun w => (w.position, (w.trace store).value)).append_left
      p.finished
    rw [List.map_cons] at hall
    refine List.Perm.trans ?_ hall.symm
    split
    · next result hwork =>
      rw [Worker.trace_of_done hwork]
      exact List.perm_middle.symm
    · next effect next hwork =>
      rw [Worker.trace_of_act hwork]
      exact ((set_perm hw _).map _).append_left _
    · next next hwork =>
      rw [Worker.trace_of_look hwork]
      exact ((set_perm hw _).map _).append_left _

/-! ## Schedules -/

/-- A schedule leaves the same effects, in some order. -/
theorem turns_effects_perm (p : Pool) (schedule : List Nat) :
    ((p.turns store schedule).allEffects store).Perm (p.allEffects store) := by
  induction schedule generalizing p with
  | nil => exact .refl _
  | cons place rest ih => exact (ih (p.turn store place)).trans (turn_effects_perm p place)

/-- A schedule leaves the same results, in some order. -/
theorem turns_outcomes_perm (p : Pool) (schedule : List Nat) :
    ((p.turns store schedule).allOutcomes store).Perm (p.allOutcomes store) := by
  induction schedule generalizing p with
  | nil => exact .refl _
  | cons place rest ih => exact (ih (p.turn store place)).trans (turn_outcomes_perm p place)

/-- A pool that has finished has had all its effects. -/
theorem finish_effects (p : Pool) : (p.finish store).effects = p.allEffects store := rfl

/-- A pool that has finished has all its results, in some order. -/
theorem finish_finished_perm (p : Pool) :
    (p.finish store).finished.Perm (p.allOutcomes store) :=
  ((List.reverse_perm _).append_right _).trans List.perm_append_comm

/-! ## The whole run -/

/-- At the start all effects of the entries are still to come. -/
theorem start_effects (entries : List AnalyzerEntry) :
    (start entries).allEffects store =
      entries.flatMap fun entry => (runOne store entry).effects := by
  change [] ++ (entries.zipIdx.map _).flatMap _ = _
  rw [List.nil_append, List.flatMap_map]
  conv_rhs => rw [← List.zipIdx_map_fst 0 entries, List.flatMap_map]
  rfl

/-- At the start all results are still to come, each under the position of its entry. -/
theorem start_outcomes (entries : List AnalyzerEntry) :
    (start entries).allOutcomes store =
      entries.zipIdx.map fun (entry, position) => (position, (runOne store entry).value) := by
  change [] ++ (entries.zipIdx.map _).map _ = _
  rw [List.nil_append, List.map_map]
  rfl

/-- The effects of a parallel run are those of its entries, in some order. -/
theorem finish_turns_effects_perm (entries : List AnalyzerEntry) (schedule : List Nat) :
    (((start entries).turns store schedule).finish store).effects.Perm
      (entries.flatMap fun entry => (runOne store entry).effects) := by
  rw [finish_effects, ← start_effects]
  exact turns_effects_perm _ _

/-- The result of each entry is found under its position. -/
theorem lookup_finished (entries : List AnalyzerEntry) (schedule : List Nat)
    {entry : AnalyzerEntry} {position : Nat} (h : (entry, position) ∈ entries.zipIdx) :
    (((start entries).turns store schedule).finish store).finished.lookup position =
      some (runOne store entry).value := by
  have hperm := (finish_finished_perm ((start entries).turns store schedule)).trans
    (turns_outcomes_perm (start entries) schedule)
  rw [start_outcomes] at hperm
  have hdistinct : (entries.zipIdx.map fun (entry, position) =>
      (position, (runOne store entry).value)).Pairwise fun a b => a.1 ≠ b.1 := by
    rw [List.pairwise_map, ← List.pairwise_map (f := Prod.snd), List.zipIdx_map_snd]
    exact List.nodup_range'
  rw [Dictionary.lookup_eq_some_iff ((hperm.pairwise_iff fun h => h.symm).2 hdistinct),
    hperm.mem_iff]
  exact List.mem_map.2 ⟨(entry, position), h, rfl⟩

/-- **Results are put back in the order of the entries.** -/
theorem results_finish_turns (entries : List AnalyzerEntry) (schedule : List Nat) :
    (((start entries).turns store schedule).finish store).results entries.length =
      (run store entries).value := by
  have hrange : List.range entries.length = entries.zipIdx.map Prod.snd := by
    rw [List.zipIdx_map_snd, List.range_eq_range']
  have hentries : entries.filterMap (fun entry => (runOne store entry).value) =
      entries.zipIdx.filterMap fun x => (runOne store x.1).value := by
    conv_lhs => rw [← List.zipIdx_map_fst 0 entries, List.filterMap_map]
    rfl
  change _ = (entries.map (runOne store)).filterMap Trace.value
  rw [results, hrange, List.filterMap_map, List.filterMap_map]
  refine Eq.trans (List.filterMap_congr fun x hx => ?_) hentries.symm
  simp only [Function.comp_apply, lookup_finished entries schedule hx, Option.join_some]

end Pool

/-! ## Agreement -/

/-- The effects of a parallel run are those of the run in order, in some order. -/
theorem runParallel_effects_perm (schedule : List Nat) (store : Store)
    (entries : List AnalyzerEntry) :
    (runParallel schedule store entries).effects.Perm (run store entries).effects := by
  have heffects := @Pool.finish_turns_effects_perm store entries schedule
  have hresults := @Pool.results_finish_turns store entries schedule
  change (_ ++ closing _).Perm ((entries.map (runOne store)).flatMap Trace.effects ++ closing _)
  rw [hresults, List.flatMap_map]
  exact heffects.append_right _

/-- **Parallel and sequential runs agree.**  Whatever the schedule, the results are what the
entries contribute, in the order of the entries, and all numbers grow alike. -/
theorem runParallel_agrees (schedule : List Nat) (store : Store)
    (entries : List AnalyzerEntry) :
    (runParallel schedule store entries).value = (run store entries).value ∧
    (run store entries).value = entries.flatMap (fun entry => entry.contribution store) ∧
    ∀ c : Counters, c.tickAll (Effect.ticks (runParallel schedule store entries).effects) =
      c.tickAll (Effect.ticks (run store entries).effects) := by
  have hticks := (runParallel_effects_perm schedule store entries).filterMap Effect.tick?
  exact ⟨Pool.results_finish_turns entries schedule, run_value store entries,
    Counters.tickAll_perm hticks⟩

end NodeFit
