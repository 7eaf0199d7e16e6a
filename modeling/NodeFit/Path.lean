import NodeFit.FileTree

/-!
# NodeFit.Path

Components of paths.

A path says where to go part by part.  Empty parts say nothing, and neither do single
dots, but for the one that a path starts with.  A path that starts with a slash starts at
the root.

Components are what keys of collected files are judged by before any path is made of them
(`Component.descends`).  Where a path leads from another one is joining the two (`Path.join`): a
path that starts at the root stands by itself.
-/

namespace NodeFit.Path

/-- A step that a path says to take. -/
inductive Component where
  /-- To the root. -/
  | root
  /-- Nowhere, by the dot that the path starts with. -/
  | here
  /-- To the directory above. -/
  | up
  /-- To what has a name. -/
  | name (text : String)
deriving DecidableEq, Repr

/-- Whether the step leads to a place below, or nowhere. -/
def Component.descends : Component → Bool
  | .here | .name _ => true
  | .root | .up => false

def isAbsolute (path : String) : Bool := path.toList.head? == some '/'

/-- Whether a part of a path says nothing. -/
def isIdle (part : String) : Bool := part.isEmpty || part == "."

/-- What a part of a path says, if it says anything. -/
def component? (part : String) : Option Component :=
  if isIdle part then none
  else if part == ".." then some .up
  else some (.name part)

/-- What the start of a path says. -/
def leading (path : String) : List Component :=
  if isAbsolute path then [.root]
  else if (FileTree.parts path).head? == some "." then [.here]
  else []

def components (path : String) : List Component :=
  leading path ++ (FileTree.parts path).filterMap component?

/-- A path seen from another one.  One that starts at the root is itself from anywhere. -/
def join (base path : String) : String :=
  let cs := base.toList
  if isAbsolute path then path
  else if cs.isEmpty || cs.getLast? == some '/' then base ++ path
  else base ++ "/" ++ path

end NodeFit.Path
