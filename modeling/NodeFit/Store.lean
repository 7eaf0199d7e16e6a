/-!
# NodeFit.Store

Collected files, read by their keys.

A store answers every key with the bytes collected under it or with the reason
why there are none.  Checks read two kinds of key: the list of nodes, and the
list of deployments of a namespace.

Nothing is assumed of a store but that it answers: two fetches of a key are the same value, so
that an analysis is a function of the store.  Memory, a directory and a list of files that were
fetched before are stores.
-/

namespace NodeFit

/-- The contents of a file. -/
abbrev Bytes := List UInt8

/-- Why the operating system does not give out a file. -/
inductive FileError where
  | notFound
  | permissionDenied
  | notADirectory
  | isADirectory
  | nameTooLong
  /-- The path has a NUL in it and is never looked up. -/
  | nulInPath
  /-- Any other reason, in the words of the system. -/
  | other (reason : String)
deriving DecidableEq, Repr

def FileError.message : FileError → String
  | .notFound => "No such file or directory (os error 2)"
  | .permissionDenied => "Permission denied (os error 13)"
  | .notADirectory => "Not a directory (os error 20)"
  | .isADirectory => "Is a directory (os error 21)"
  | .nameTooLong => "File name too long (os error 36)"
  | .nulInPath => "file name contained an unexpected NUL byte"
  | .other reason => reason

/-- Why a store has no bytes for a key. -/
inductive FetchReason where
  /-- Nothing was collected under the key. -/
  | notCollected
  /-- The key would lead out of the collection. -/
  | outside
  /-- The file of the key cannot be read. -/
  | file (path : String) (error : FileError)
  /-- The store gives no reason. -/
  | unknown
deriving DecidableEq, Repr

def FetchReason.message : FetchReason → String
  | .notCollected => "file was not collected"
  | .outside => "key must be a relative path inside the bundle"
  | .file path error => path ++ ": " ++ error.message
  | .unknown => "unknown"

/-- A key that a store has no bytes for. -/
structure FetchError where
  key : String
  reason : FetchReason
deriving DecidableEq, Repr

def FetchError.message (e : FetchError) : String :=
  "failed to read collected file " ++ e.key ++ ": " ++ e.reason.message

/-- A source of collected files. -/
structure Store where
  fetch : String → Except FetchError Bytes

def nodesKey : String := "cluster-resources/nodes.json"

/-- The key of the list of deployments of a namespace. -/
def deploymentsKey (ns : String) : String := "cluster-resources/deployments/" ++ ns ++ ".json"

end NodeFit
