import NodeFit.Command.Host
import NodeFit.Event

/-!
# NodeFit.Command.Log

Records that commands write beside their results, and the choice of those to show.

A record has a level and a target, the part of the program that it comes from.  A filter
is a list of directives, each of which admits records up to some level, for one target
and those below it or for all.  Of the directives that a record falls under, the one
with the longest target decides, of two for the same target the later one.

The records of a run come from its events (`LogRecord.ofEvent`).  Two are the command's own: that a
run begins, and that a list of outcomes has lost entries (`LogRecord.droppedOutcomes`), of which
there is one for each such list.  Which records are shown is decided behind the command, so
that no filter changes what a command does.
-/

namespace NodeFit

/-! ## Records -/

/-- Something written while a command goes on. -/
structure LogRecord where
  level : Level
  target : String
  fields : List (String × Json)

namespace LogRecord

/-- A list of outcomes lost entries that have no verdict. -/
def droppedOutcomes (dropped : Nat) : LogRecord :=
  { level := .warn
    target := "preflight_lib::spec"
    fields :=
      [("message", .text "Ignoring outcome entries without fail, warn or pass"),
        ("skipped", .int dropped)] }

/-- An event of a run. -/
def ofEvent (bundle : String) (e : Event) : LogRecord :=
  ⟨e.level, "preflight_lib::observability", e.fields bundle⟩

def runStarted (title bundle : String) (analyzers : Nat) (parallel : Bool) : LogRecord :=
  { level := .info
    target := "preflight::commands::run"
    fields :=
      [("message", .text "Starting preflight run"), ("spec", .text title),
        ("bundle", .text bundle), ("analyzers", .int analyzers), ("parallel", .bool parallel)] }

/-- The record as JSON, with the time it was written at. -/
def toJson (r : LogRecord) (time : String) : Json :=
  .object
    [("timestamp", .text time), ("level", .text r.level.name), ("fields", .object r.fields),
      ("target", .text r.target)]

end LogRecord

/-! ## Filters -/

/-- Admits records up to a level, those of one target and below, or of all targets.
Without a level no record is admitted. -/
structure LogDirective where
  target : List Char
  level : Option Level
deriving DecidableEq, Repr

/-- Directives; later ones refine or replace earlier ones. -/
abbrev LogFilter := List LogDirective

namespace LogFilter

/-- The level that a word stands for, in any case; `none` for a word that stands for
none.  A word may ask for no level at all. -/
def levelOfWord? (word : List Char) : Option (Option Level) :=
  match (String.ofList word).toLower with
  | "off" => some none
  | "0" => some none
  | "error" => some (some .error)
  | "1" => some (some .error)
  | "warn" => some (some .warn)
  | "2" => some (some .warn)
  | "info" => some (some .info)
  | "3" => some (some .info)
  | "debug" => some (some .debug)
  | "4" => some (some .debug)
  | "trace" => some (some .trace)
  | "5" => some (some .trace)
  | _ => none

/-- The characters of targets. -/
def isTargetChar (c : Char) : Bool :=
  c.isAlphanum || c == '_' || c == ':' || c == '-' || 0x80 ≤ c.toNat

/-- The level behind a target; a target alone admits every level. -/
def levelBehind? : List Char → Option (Option Level)
  | [] => some (some .trace)
  | ['='] => some (some .trace)
  | '=' :: word => levelOfWord? word
  | _ => none

/-- The directive of a text: a level, a target, or both with an equals sign between. -/
def directive? (cs : List Char) : Option LogDirective :=
  match levelOfWord? cs with
  | some level => some ⟨[], level⟩
  | none =>
    let target := cs.takeWhile isTargetChar
    if target.isEmpty then none
    else
      (levelBehind? (cs.dropWhile isTargetChar)).map fun level =>
        ⟨if (levelOfWord? target).isSome then [] else target, level⟩

/-- The filter of a text: directives between commas. -/
def parse? (s : String) : Option LogFilter :=
  ((s.toList.splitOn ',').filter fun piece => !piece.isEmpty).mapM directive?

/-- The filter that admits records of all targets up to a level. -/
def upTo (level : Level) : LogFilter := [⟨[], some level⟩]

/-- The variable of the environment that may hold a filter. -/
def variableName : String := "RUST_LOG"

/-- The filter in force.  Where the environment gives none, or one that cannot be read,
warnings are admitted, and information too if it is asked for. -/
def inForce (environment : Environment) (verbose : Bool) : LogFilter :=
  ((environment.lookup variableName).bind parse?).getD (upTo (if verbose then .info else .warn))

/-- The directive with the longer target, the second one if both are as long. -/
def stronger (a : Option LogDirective) (b : LogDirective) : Option LogDirective :=
  match a with
  | none => some b
  | some a => if b.target.length < a.target.length then some a else some b

/-- The directive that decides about a target. -/
def deciding (filter : LogFilter) (target : String) : Option LogDirective :=
  (filter.filter fun d => d.target.isPrefixOf target.toList).foldl stronger none

/-- Whether a record is shown. -/
def admits (filter : LogFilter) (r : LogRecord) : Bool :=
  match (filter.deciding r.target).bind LogDirective.level with
  | some level => r.level.rank ≤ level.rank
  | none => false

end LogFilter
end NodeFit
