import NodeFit.Conditional.Evaluation

/-!
# NodeFit.Outcome

Outcomes: what a check says when a conditional holds.

Outcomes are tried in the order in which they are declared, whatever their
verdicts are.  The first whose conditional holds is chosen, and no later one is
looked at.

A conditional that cannot be evaluated stops the search with an error, unless an outcome before it
holds.  `selectIndex` finds the position and `selectOutcome` the outcome there; what becomes of a
result then is in `NodeFit.Result`.
-/

namespace NodeFit

/-- What a result says about the cluster. -/
inductive Verdict where
  | fail
  | warn
  | pass
deriving DecidableEq, Repr

namespace Verdict

def label : Verdict → String
  | fail => "fail"
  | warn => "warn"
  | pass => "pass"

def ofLabel? : String → Option Verdict
  | "fail" => some fail
  | "warn" => some warn
  | "pass" => some pass
  | _ => none

end Verdict

/-- The conditional of an outcome and what the outcome reports. -/
structure OutcomeBody where
  /-- The text of the conditional; the empty text always holds. -/
  condition : String
  message : String
  uri : Option String
deriving DecidableEq, Repr

/-- One entry of a list of outcomes. -/
structure Outcome where
  verdict : Verdict
  body : OutcomeBody
deriving DecidableEq, Repr

/-- Whether the conditional of an outcome holds over some nodes. -/
def Outcome.holds (o : Outcome) (nodes : List ClusterNode) : Except ConditionalError Bool :=
  evaluateConditional o.body.condition nodes

/-- The position of the first outcome that holds. -/
def selectIndex (nodes : List ClusterNode) : List Outcome → Except ConditionalError (Option Nat)
  | [] => .ok none
  | o :: rest => do
    if ← o.holds nodes then return some 0
    let later ← selectIndex nodes rest
    return later.map (· + 1)

/-- The first outcome that holds. -/
def selectOutcome (nodes : List ClusterNode) :
    List Outcome → Except ConditionalError (Option Outcome)
  | [] => .ok none
  | o :: rest => do
    if ← o.holds nodes then return some o
    selectOutcome nodes rest

end NodeFit
