import NodeFit.Path

/-!
# NodeFit.Store.Directory

Collected files in a directory.

The key of a file is its path below the directory.  A key that is empty, that starts
at the root or that goes up anywhere is refused before anything is looked up, so that
no key leads out of the directory.

A key is judged by its components and not by where its path would lead, so that the answer for such
a key does not depend on the files.  How files are read is a parameter (`DirectoryStore.fetch`).
-/

namespace NodeFit.DirectoryStore

/-- Whether a key could lead out of a directory, or names nothing. -/
def escapes (key : String) : Bool :=
  (Path.components key).any (fun c => !c.descends) || key.isEmpty

/-- The path of the file of a key. -/
def resolve (root key : String) : Except FetchError String :=
  if escapes key then .error ⟨key, .outside⟩ else .ok (Path.join root key)

/-- What became of reading the file of a key.  One that is not there was not
collected. -/
def fetched (key path : String) : Except FileError Bytes → Except FetchError Bytes
  | .ok bytes => .ok bytes
  | .error .notFound => .error ⟨key, .notCollected⟩
  | .error e => .error ⟨key, .file path e⟩

/-- Reads the file of a key by a way to read files. -/
def fetch (read : String → Except FileError Bytes) (root key : String) :
    Except FetchError Bytes := do
  let path ← resolve root key
  fetched key path (read path)

/-- A directory of a tree of files as a source of collected files. -/
def ofTree (t : FileTree) (cwd : List String) (root : String) : Store :=
  ⟨fetch (t.read cwd) root⟩

end NodeFit.DirectoryStore
