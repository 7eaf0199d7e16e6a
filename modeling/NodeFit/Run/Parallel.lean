import NodeFit.Run

/-!
# NodeFit.Run.Parallel

Runs that carry out their entries at the same time.

Every entry has a worker.  A schedule hands out turns: a worker whose turn it is takes the
next step of its work, or finishes if there is none left.  Effects take place one at a
time, in the order of the turns.  Workers may finish in any order; their results are
collected in the order of the entries.  The store does not change during a run.

A pool is the state half way through: workers with what is left for them to do, the results so far,
and the effects so far (`Pool`).  A schedule is a list of places among the workers that have not
finished; where it names no worker nothing happens, and where it ends too early the others finish
one after the other.
-/

namespace NodeFit

/-- A worker that has not finished. -/
structure Worker where
  /-- The position of its entry. -/
  position : Nat
  /-- What is left to do for the entry. -/
  work : Work

/-- A parallel run half way through. -/
structure Pool where
  /-- The workers that have not finished, in the order of their entries. -/
  working : List Worker
  /-- What the others resulted in by the positions of their entries, the last to finish
  first. -/
  finished : List (Nat × Option AnalysisResult)
  /-- The effects so far. -/
  effects : List Effect

namespace Pool

/-- The start: a worker for each entry, which has not done anything yet. -/
def start (entries : List AnalyzerEntry) : Pool :=
  ⟨entries.zipIdx.map fun (entry, position) => ⟨position, entry.work⟩, [], []⟩

/-- A turn of the worker at a place among those that have not finished; where there is
none, nothing happens. -/
def turn (store : Store) (p : Pool) (place : Nat) : Pool :=
  match p.working[place]? with
  | none => p
  | some w =>
    match w.work with
    | .done result =>
      { p with
        working := p.working.eraseIdx place
        finished := (w.position, result) :: p.finished }
    | .act effect next =>
      { p with
        working := p.working.set place { w with work := next }
        effects := p.effects ++ [effect] }
    | .look next => { p with working := p.working.set place { w with work := next store } }

/-- The turns of a schedule in order. -/
def turns (store : Store) (p : Pool) (schedule : List Nat) : Pool :=
  schedule.foldl (turn store) p

/-- Lets the workers that are left finish one after the other. -/
def finish (store : Store) (p : Pool) : Pool :=
  { working := []
    finished :=
      (p.working.map fun w => (w.position, (w.work.run store).value)).reverse ++ p.finished
    effects := p.effects ++ p.working.flatMap fun w => (w.work.run store).effects }

/-- The results of the finished workers in the order of the entries. -/
def results (p : Pool) (entries : Nat) : List AnalysisResult :=
  (List.range entries).filterMap fun position => (p.finished.lookup position).join

end Pool

/-- Carries out entries at the same time.  Workers that the schedule leaves unfinished
finish after it. -/
def runParallel (schedule : List Nat) (store : Store) (entries : List AnalyzerEntry) :
    Trace (List AnalysisResult) :=
  let pool := ((Pool.start entries).turns store schedule).finish store
  let results := pool.results entries.length
  ⟨pool.effects ++ closing results, results⟩

end NodeFit
