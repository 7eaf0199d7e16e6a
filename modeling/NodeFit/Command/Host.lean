import NodeFit.FileTree

/-!
# NodeFit.Command.Host

The machine that a command runs on.

Commands reach files, variables of the environment, the clock and the turns of workers
only through a host, so that the same command runs on a real machine and on a tree of
files.

Operations of a host may fail as files do, and they may change the machine, which is why a host is
one of a monad.  For `IO` it is the real machine; for a state of a tree of files it is what theorems
about commands speak of.
-/

namespace NodeFit

/-- Variables of the environment, by their names. -/
abbrev Environment := List (String × String)

/-- What a command can ask of the machine, each answer given in a monad. -/
structure Host (m : Type → Type) where
  environment : Environment
  /-- Whether results go to a terminal. -/
  terminal : Bool
  read : String → m (Except FileError Bytes)
  isDirectory : String → m Bool
  write : String → Bytes → m (Except FileError Unit)
  /-- The present time, written out. -/
  now : m String
  /-- The turns that the workers of a parallel run get. -/
  schedule : m (List Nat)

/-- Writes a file, if it can be written. -/
def FileTree.put (cwd : List String) (path : String) (bytes : Bytes) :
    StateM FileTree (Except FileError Unit) :=
  fun t =>
    match t.write cwd path bytes with
    | .ok t => (.ok (), t)
    | .error e => (.error e, t)

/-- The machine whose files are those of a tree, whose clock stands still, and where
workers take their turns one after the other. -/
def FileTree.host (cwd : List String) (environment : Environment) (time : String) :
    Host (StateM FileTree) where
  environment
  terminal := false
  read path := do return (← get).read cwd path
  isDirectory path := do return (← get).isDirectory cwd path
  write := FileTree.put cwd
  now := pure time
  schedule := pure []

end NodeFit
