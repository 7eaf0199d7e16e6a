import NodeFit.Command
import Std.Time.Format

/-!
# NodeFit.Main

The program `preflight`.

Reads the command line and the environment, carries out the command on the machine it
runs on, and prints what the command leaves behind: results to the output, log records
and errors beside it.

This is the outer layer: `host` is the machine, with its files, clock and environment, and
everything that is decided is decided by `Command.execute`.  Log records are printed with the time
of printing, as lines for people or as JSON.
-/

namespace NodeFit.Main

/-! ## The machine -/

/-- The cause of a failed file operation. -/
def fileError : IO.Error → FileError
  | .noFileOrDirectory _ _ _ => .notFound
  | .permissionDenied _ _ _ => .permissionDenied
  | .inappropriateType _ 21 _ => .isADirectory
  | .inappropriateType _ _ _ => .notADirectory
  | e => .other e.toString

/-- Carries out a file operation. -/
def attempt {α : Type} (operation : IO α) : IO (Except FileError α) := do
  return (← operation.toBaseIO).mapError fileError

def readFile (path : String) : IO (Except FileError Bytes) :=
  attempt do return (← IO.FS.readBinFile path).toList

def writeFile (path : String) (bytes : Bytes) : IO (Except FileError Unit) :=
  attempt (IO.FS.writeBinFile path ⟨bytes.toArray⟩)

def isDirectory (path : String) : IO Bool := do
  match ← (IO.FS.realPath path).toBaseIO with
  | .ok path => path.isDir
  | .error _ => return false

/-- The present time in UTC. -/
def now : IO String := do
  let time := Std.Time.DateTime.ofTimestamp (← Std.Time.Timestamp.now) .UTC
  return time.format "uuuu-MM-dd'T'HH:mm:ss.SSSSSSSSS'Z'"

/-- A variable of the environment from its line. -/
def variableOf (line : String) : String × String :=
  let cs := line.toList
  (String.ofList (cs.takeWhile (· != '=')), String.ofList ((cs.dropWhile (· != '=')).drop 1))

/-- The file in which the system lists the variables of this process. -/
def environmentPath : String := "/proc/self/environ"

/-- The variables of the environment; none where the system does not list them. -/
def readEnvironment : IO Environment := do
  match (← readFile environmentPath).toOption.bind Json.Written.decodeText? with
  | none => return []
  | some s => return ((s.splitOn "\x00").filter fun line => !line.isEmpty).map variableOf

/-- The machine that the program runs on. -/
def host : IO (Host IO) := do
  return {
    environment := ← readEnvironment
    terminal := ← (← IO.getStdout).isTty
    read := readFile
    isDirectory
    write := writeFile
    now
    schedule := pure [] }

/-! ## Printing -/

/-- A field of a log record for people. -/
def fieldText (field : String × Json) : String := field.1 ++ "=" ++ field.2.render

/-- A log record for people: the message first, then all other fields. -/
def recordText (time : String) (r : LogRecord) : String :=
  let message := match r.fields.lookup "message" with
    | some (.text s) => s
    | _ => ""
  let others := (r.fields.filter fun field => field.1 != "message").map fieldText
  " ".intercalate ([time, r.level.name, r.target ++ ":", message] ++ others)

/-- Prints the log records and the error of a command. -/
def printErrors (asJson : Bool) (finished : Command.Finished) : IO Unit := do
  let err ← IO.getStderr
  for r in finished.logs do
    let time ← now
    err.putStrLn (if asJson then (r.toJson time).render else recordText time r)
  for line in finished.error do
    err.putStrLn line

def version : String := "preflight 0.1.0"

def usage : String :=
  "Usage: preflight [-b DIRECTORY] [-f table|json] [-v] [--log-json] COMMAND\n\n"
    ++ "Commands:\n"
    ++ "  run DOCUMENT [--parallel] [--metrics-out FILE]  evaluate a document\n"
    ++ "  nodes                                           list the collected nodes\n"
    ++ "  eval CONDITIONAL [-l KEY=VALUE]...              try a conditional\n"

def program (words : List String) : IO UInt32 := do
  match Arguments.parse words with
  | .error .help =>
    IO.print usage
    return 0
  | .error .version =>
    IO.println version
    return 0
  | .error .usage =>
    IO.eprint usage
    return 2
  | .ok invocation =>
    let finished ← Command.execute (← host) invocation
    printErrors invocation.general.logJson finished
    for line in finished.output do
      IO.println line
    return finished.code.toUInt32

end NodeFit.Main

def main (words : List String) : IO UInt32 := NodeFit.Main.program words
