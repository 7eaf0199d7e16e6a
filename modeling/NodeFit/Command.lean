import NodeFit.Command.Arguments
import NodeFit.Command.LabelSelector
import NodeFit.Command.Log
import NodeFit.Command.Report
import NodeFit.Conditional.Evaluation
import NodeFit.Run.Parallel
import NodeFit.Store.Directory

/-!
# NodeFit.Command

The commands: run a document, list nodes, try a conditional.

A command ends with a report, or with the error that it stopped at.  It leaves the
program with code 0, with 1 if the report is one of failure, and with 2 after an error.
The files that a run may ask for are read before it starts, so that the run itself is
one of a fixed store.

Commands are written for any monad and any host in it, so that they run on a machine as well as
on a tree of files:

* `Command.run` reads a document, fetches the files that its entries may ask for, carries the
  entries out in either mode, and writes the numbers of the run to a file if asked to;
* `Command.nodes` lists the collected nodes;
* `Command.eval` tries a conditional over the nodes that a selector chooses.

`Command.execute` puts settings and options in front of them and turns their end into a code,
lines of output, log records and the line of an error.  What a command logs before an error
is kept, so that a document which loses outcomes says so even if the run cannot start.
-/

namespace NodeFit

/-! ## Errors -/

/-- Why a command has no report. -/
inductive CommandError where
  | settings (error : SettingsError)
  /-- The settings ask for a format of output that there is not. -/
  | unknownFormat (name : String)
  | document (path : String) (error : SpecError)
  | noBundle (path : String)
  | fetchNodes (error : FetchError)
  | decodeNodes (error : Cluster.NodeListError)
  /-- A text is no label. -/
  | selector (text : String)
  | evaluation (error : ConditionalError)
  | metrics (path : String) (error : FileError)

def CommandError.message : CommandError → String
  | .settings error => error.message
  | .unknownFormat name => "Unknown output format in configuration: " ++ name
  | .document path error => "Failed to load preflight spec " ++ path ++ ": " ++ error.message
  | .noBundle path => "Bundle directory " ++ path ++ " does not exist"
  | .fetchNodes error => "Failed to read node list from bundle: " ++ error.message
  | .decodeNodes error => "Failed to decode node list: " ++ error.message
  | .selector text => "Invalid selector " ++ Text.quoted text ++ ", expected key=value"
  | .evaluation error =>
    "Failed to evaluate " ++ Text.quoted error.conditional ++ ": " ++ error.message
  | .metrics path error => "Failed to write metrics to " ++ path ++ ": " ++ error.message

/-! ## Collected files on a host -/

namespace Host

variable {m : Type → Type} [Monad m]

/-- The file of a key below a directory. -/
def fetch (host : Host m) (root key : String) : m (Except FetchError Bytes) :=
  match DirectoryStore.resolve root key with
  | .error e => pure (.error e)
  | .ok path => do return DirectoryStore.fetched key path (← host.read path)

/-- The files of some keys below a directory. -/
def fetchAll (host : Host m) (root : String) :
    List String → m (List (String × Except FetchError Bytes))
  | [] => pure []
  | key :: keys => do
    let file ← host.fetch root key
    let files ← host.fetchAll root keys
    return (key, file) :: files

end Host

/-- The store of some fetched files. -/
def Store.ofFetched (files : List (String × Except FetchError Bytes)) : Store :=
  ⟨fun key => (files.lookup key).getD (.error ⟨key, .unknown⟩)⟩

/-- The files that an entry may ask for. -/
def AnalyzerEntry.keys (entry : AnalyzerEntry) : List String :=
  match entry.nodeResources with
  | none => []
  | some check =>
    nodesKey :: check.gating.deployment.toList.map fun workload => deploymentsKey workload.ns

/-! ## Commands -/

namespace Command

variable {m : Type → Type} [Monad m]

/-- What a command tells on its way, and what it comes to. -/
structure Ended where
  logs : List LogRecord
  result : Except CommandError Report

/-- The run of entries, one after the other or at the same time. -/
def runEntries (host : Host m) (store : Store) (parallel : Bool)
    (entries : List AnalyzerEntry) : m (Trace (List AnalysisResult)) :=
  if parallel then do return runParallel (← host.schedule) store entries
  else pure (NodeFit.run store entries)

/-- The text of the numbers that some effects lead to. -/
def metricsText (effects : List Effect) : String :=
  let counters := Counters.zero.tickAll (Effect.ticks effects)
  String.join (counters.exposition.map (· ++ "\n"))

/-- Writes the numbers of a run to a file, if there is one to write. -/
def writeMetrics (host : Host m) (path? : Option String) (effects : List Effect) :
    m (Except CommandError Unit) :=
  match path? with
  | none => pure (.ok ())
  | some path => do
    let written ← host.write path (metricsText effects).toUTF8.toList
    return written.mapError (.metrics path)

/-- Runs a document that could be read. -/
def runDocument (host : Host m) (bundle : String) (document : PreflightDocument)
    (parallel : Bool) (metricsOut : Option String) : m Ended := do
  let entries := document.analyzers
  let files ← host.fetchAll bundle (entries.flatMap AnalyzerEntry.keys)
  let t ← runEntries host (Store.ofFetched files) parallel entries
  let logs := .runStarted document.title bundle entries.length parallel
    :: (Effect.events t.effects).map (.ofEvent bundle)
  match ← writeMetrics host metricsOut t.effects with
  | .error e => return ⟨logs, .error e⟩
  | .ok () => return ⟨logs, .ok (.run document.title bundle (← host.now) t.value)⟩

def run (host : Host m) (bundle path : String) (parallel : Bool) (metricsOut : Option String) :
    m Ended := do
  let loaded := loadDocument path (← host.read path)
  let warnings := loaded.dropped.map LogRecord.droppedOutcomes
  match loaded.result with
  | .error e => return ⟨warnings, .error (.document path e)⟩
  | .ok document =>
    if ← host.isDirectory bundle then
      let ended ← runDocument host bundle document parallel metricsOut
      return { ended with logs := warnings ++ ended.logs }
    else return ⟨warnings, .error (.noBundle bundle)⟩

def loadNodes (host : Host m) (bundle : String) : m (Except CommandError (List ClusterNode)) := do
  if ← host.isDirectory bundle then
    match ← host.fetch bundle nodesKey with
    | .error e => return .error (.fetchNodes e)
    | .ok payload => return (Cluster.decodeNodes payload).mapError .decodeNodes
  else return .error (.noBundle bundle)

def nodes (host : Host m) (bundle : String) : m Ended := do
  return ⟨[], (← loadNodes host bundle).map .nodes⟩

/-- Tries a conditional over the nodes that a selector chooses. -/
def tryConditional (conditional : String) (selector : LabelSelector) (nodes : List ClusterNode) :
    Except ConditionalError Report :=
  let matching := selector.select nodes
  (evaluateConditional conditional matching).map fun holds =>
    .eval conditional matching.length nodes.length
      ((actualOf? conditional matching).map AggregateValue.text) holds

/-- Tries a conditional. -/
def eval (host : Host m) (bundle conditional : String) (selectors : List String) : m Ended :=
  match LabelSelector.parse selectors with
  | .error text => pure ⟨[], .error (.selector text)⟩
  | .ok selector => do
    match ← loadNodes host bundle with
    | .error e => return ⟨[], .error e⟩
    | .ok nodes =>
      return ⟨[], (tryConditional conditional selector nodes).mapError .evaluation⟩

/-- Performs a task on the collected files of a directory. -/
def perform (host : Host m) (bundle : String) (settings : Settings) : Task → m Ended
  | .run document parallel metricsOut =>
    run host bundle document (parallel || settings.parallel) metricsOut
  | .nodes => nodes host bundle
  | .eval conditional selectors => eval host bundle conditional selectors

/-! ## The program -/

/-- What the program leaves behind. -/
structure Finished where
  code : Nat
  /-- The lines of the output. -/
  output : List String
  /-- The records that are shown. -/
  logs : List LogRecord
  /-- The line that reports an error. -/
  error : Option String

def loadSettings (host : Host m) : m (Except SettingsError Settings) := do
  let contents ←
    match Settings.path? host.environment with
    | some path => host.read path
    | none => pure (.error .notFound)
  return Settings.load contents host.environment

/-- The end of a command whose output has a format. -/
def Ended.finish (ended : Ended) (style : Style) (filter : LogFilter) (format : OutputFormat) :
    Finished :=
  let logs := ended.logs.filter filter.admits
  match ended.result with
  | .error e => ⟨2, [], logs, some (style.message .error e.message)⟩
  | .ok report => ⟨if report.failed then 1 else 0, report.render style format, logs, none⟩

/-- Carries out what a command line asks for. -/
def execute (host : Host m) (invocation : Invocation) : m Finished := do
  let general := invocation.general
  let style := Style.choose host.environment host.terminal
  let filter := LogFilter.inForce host.environment general.verbose
  let stop (e : CommandError) : Finished := (Ended.mk [] (.error e)).finish style filter .usual
  match ← loadSettings host with
  | .error e => return stop (.settings e)
  | .ok settings =>
    match settings.formatOr general.format with
    | .error name => return stop (.unknownFormat name)
    | .ok format =>
      let ended ← perform host (settings.bundleOr general.bundle) settings invocation.task
      return ended.finish style filter format

end Command
end NodeFit
