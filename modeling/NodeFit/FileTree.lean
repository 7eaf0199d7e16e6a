import NodeFit.Store

/-!
# NodeFit.FileTree

Trees of files and directories, and the look-up of paths in them.

A path is walked part by part.  Empty parts and single dots stay where they are, two
dots lead to the directory above, and every part but the last must lead to a
directory.  Paths that do not start at the root start at a working directory.

A tree is a map from places to nodes.  A place is a list of names from the root, and to look a path
up is to walk from one place to another (`FileTree.walk`), with an error as soon as a
part leads nowhere.  There are no links.  A path that is too long is refused before it is walked
(`FileTree.checkPath`), and a part that is too long where it is looked up.
-/

namespace NodeFit

/-- What a path leads to. -/
inductive FileNode where
  | file (bytes : Bytes)
  | directory
deriving DecidableEq, Repr

/-- Files and directories by the parts of their paths.  The root is always there. -/
structure FileTree where
  nodes : List (List String × FileNode)
deriving DecidableEq, Repr

namespace FileTree

/-- The tree with nothing but its root. -/
def empty : FileTree := ⟨[]⟩

/-- The node at a place, given by its parts from the root on. -/
def node? (t : FileTree) (place : List String) : Option FileNode :=
  if place.isEmpty then some .directory else t.nodes.lookup place

/-- Puts a node at a place. -/
def set (t : FileTree) (place : List String) (node : FileNode) : FileTree :=
  ⟨(place, node) :: t.nodes.filter (·.1 != place)⟩

/-! ## Paths -/

/-- The parts of a path between its slashes. -/
def parts (path : String) : List String := (path.toList.splitOn '/').map String.ofList

/-- The place that a path starts at. -/
def startOf (cwd : List String) (path : String) : List String :=
  if path.toList.head? == some '/' then [] else cwd

/-- The most bytes that a part of a path may have. -/
def maxPart : Nat := 255

/-- The first number of bytes that no path has. -/
def pathLimit : Nat := 4096

/-- One step from a directory. -/
def step (t : FileTree) (place : List String) (part : String) : Except FileError (List String) :=
  if t.node? place != some .directory then .error .notADirectory
  else if part.isEmpty || part == "." then .ok place
  else if part == ".." then .ok place.dropLast
  else if maxPart < part.utf8ByteSize then .error .nameTooLong
  else if (t.node? (place ++ [part])).isSome then .ok (place ++ [part])
  else .error .notFound

/-- The place that some parts lead to. -/
def walk (t : FileTree) (place : List String) : List String → Except FileError (List String)
  | [] => .ok place
  | part :: rest => do
    let place ← t.step place part
    t.walk place rest

/-- Refuses paths that are never looked up. -/
def checkPath (path : String) : Except FileError Unit :=
  if path.toList.contains '\x00' then .error .nulInPath
  else if path.isEmpty then .error .notFound
  else if pathLimit ≤ path.utf8ByteSize then .error .nameTooLong
  else .ok ()

/-- The place that a path leads to. -/
def find (t : FileTree) (cwd : List String) (path : String) : Except FileError (List String) := do
  checkPath path
  t.walk (startOf cwd path) (parts path)

/-! ## Files -/

def read (t : FileTree) (cwd : List String) (path : String) : Except FileError Bytes := do
  let place ← t.find cwd path
  match t.node? place with
  | some (.file bytes) => return bytes
  | some .directory => throw .isADirectory
  | none => throw .notFound

def isDirectory (t : FileTree) (cwd : List String) (path : String) : Bool :=
  match t.find cwd path with
  | .ok place => t.node? place == some .directory
  | .error _ => false

/-- Writes a file into a directory that must be there. -/
def write (t : FileTree) (cwd : List String) (path : String) (bytes : Bytes) :
    Except FileError FileTree := do
  checkPath path
  let parts := parts path
  let place ← t.walk (startOf cwd path) parts.dropLast
  let name := parts.getLast?.getD ""
  match t.step place name with
  | .ok found =>
    if t.node? found == some .directory then throw .isADirectory
    else return t.set found (.file bytes)
  | .error .notFound => return t.set (place ++ [name]) (.file bytes)
  | .error e => throw e

/-- Makes the directories that some parts lead through. -/
def makeDirectories (t : FileTree) (place : List String) : List String → FileTree
  | [] => t
  | part :: rest =>
    if part.isEmpty || part == "." then t.makeDirectories place rest
    else
      let place := place ++ [part]
      let t := if (t.node? place).isSome then t else t.set place .directory
      t.makeDirectories place rest

end FileTree
end NodeFit
