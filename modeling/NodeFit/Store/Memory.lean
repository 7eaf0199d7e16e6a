import NodeFit.Dictionary
import NodeFit.Store

/-!
# NodeFit.Store.Memory

Collected files held in memory.

A memory store has two layers.  Files in the protected layer shadow collected
files of the same key, in whatever order the two came.

A protected file stays in force when a file is collected under its key afterwards; the collected one
is kept below it and is never seen.  The store counts collected files only.
-/

namespace NodeFit

/-- Collected files and the protected files that shadow them. -/
structure MemoryStore where
  collected : Dictionary Bytes
  protectedFiles : Dictionary Bytes
deriving DecidableEq, Repr

namespace MemoryStore

def empty : MemoryStore := ⟨.empty, .empty⟩

def insert (s : MemoryStore) (key : String) (bytes : Bytes) : MemoryStore :=
  { s with collected := s.collected.insert key bytes }

def protect (s : MemoryStore) (key : String) (bytes : Bytes) : MemoryStore :=
  { s with protectedFiles := s.protectedFiles.insert key bytes }

/-- The file of a key. -/
def fetch (s : MemoryStore) (key : String) : Except FetchError Bytes :=
  match s.protectedFiles.get? key <|> s.collected.get? key with
  | some bytes => .ok bytes
  | none => .error ⟨key, .notCollected⟩

/-- The number of collected files; protected ones do not count. -/
def size (s : MemoryStore) : Nat := s.collected.size

def isEmpty (s : MemoryStore) : Bool := s.collected.isEmpty

/-- The store as a source of files. -/
def toStore (s : MemoryStore) : Store := ⟨s.fetch⟩

end MemoryStore
end NodeFit
