import NodeFit.Document.Decoder
import NodeFit.Yaml.Parser

/-!
# NodeFit.Document.Reader

Reading preflight documents from texts and files.

The format of a file is told by the extension of its name.  A file that cannot be
read, or that is not valid Unicode, is reported before its extension is looked at.

A text has to be the text of one tree before it can be the text of a document, so that a mistake in
the format is reported apart from one in the document (`SpecError`).  A document comes with the
numbers of entries that its lists of outcomes have lost, also where it is refused.
-/

namespace NodeFit

/-- Why the text of a file cannot be had. -/
inductive ReadError where
  | file (error : FileError)
  | notUnicode
deriving DecidableEq, Repr

def ReadError.message : ReadError → String
  | .file error => error.message
  | .notUnicode => "stream did not contain valid UTF-8"

def textOfBytes (bytes : Bytes) : Except ReadError String :=
  match Json.Written.decodeText? bytes with
  | some s => .ok s
  | none => .error .notUnicode

/-- Why a file is no preflight document. -/
inductive SpecError where
  | read (path : String) (error : ReadError)
  | malformed (format : Format) (mismatch : Mismatch)
  | unsupportedExtension (ext : String)
deriving DecidableEq, Repr

def SpecError.message : SpecError → String
  | .read path error => "failed to read spec " ++ path ++ ": " ++ error.message
  | .malformed .yaml mismatch => "invalid YAML spec: expected " ++ mismatch.expected
  | .malformed .json mismatch => "invalid JSON spec: expected " ++ mismatch.expected
  | .unsupportedExtension ext =>
    "unsupported spec file extension " ++ Text.quoted ext ++ ", expected .yaml, .yml or .json"

namespace PreflightDocument

/-- The tree of a text. -/
def treeOf? (format : Format) (s : String) : Option Tree :=
  match format with
  | .json => (Json.parse? s).map Tree.ofJson
  | .yaml => Yaml.parse? s

/-- Reads a document from a text. -/
def ofText (format : Format) (s : String) : Decoded PreflightDocument := do
  let t ← Decoded.require "a text of the format" (treeOf? format s)
  decode format t

/-- The name that a run of the document is known by. -/
def title (d : PreflightDocument) : String := d.name.getD "preflight"

end PreflightDocument

/-- The last part of a path that is not empty and not a dot. -/
def fileName (path : List Char) : List Char :=
  let parts := (path.splitOn '/').filter fun part => part != [] && part != ['.']
  parts.getLast?.getD []

/-- The extension of a path: what follows the last dot of its last part, unless that
part starts with its only dot. -/
def fileExtension (path : String) : String :=
  let name := fileName path.toList
  let reversed := name.reverse
  let ext := (reversed.takeWhile (· != '.')).reverse
  let stem := (reversed.dropWhile (· != '.')).drop 1
  if stem.isEmpty || name == ['.', '.'] then "" else String.ofList ext

/-- The format of an extension. -/
def formatOfExtension? : String → Option Format
  | "yaml" => some .yaml
  | "yml" => some .yaml
  | "json" => some .json
  | _ => none

/-- A document read from a file, with the number of entries dropped from each list of
outcomes that lost some. -/
structure Loaded where
  dropped : List Nat
  result : Except SpecError PreflightDocument

/-- Reads a document from the contents of a file. -/
def loadDocument (path : String) (contents : Except FileError Bytes) : Loaded :=
  match (contents.mapError ReadError.file).bind textOfBytes with
  | .error e => ⟨[], .error (.read path e)⟩
  | .ok s =>
    match formatOfExtension? (fileExtension path) with
    | none => ⟨[], .error (.unsupportedExtension (fileExtension path))⟩
    | some format =>
      let d := PreflightDocument.ofText format s
      ⟨d.dropped, d.result.mapError (.malformed format)⟩

end NodeFit
