import NodeFit.Json.Parser
import NodeFit.Text.Binary64

/-!
# NodeFit.Tree

Document trees: what a document in either format holds before it is given a
meaning.

Maps keep their entries in the order of the document and their keys may be of any
kind.  A value may carry a tag.  Every JSON value is a tree, and a tree whose maps
have texts as keys and that carries no tag is a JSON value.

Trees are what documents are decoded from.  They keep more than a value of JSON does, the order
and repetition of keys included, because the rules of the two formats differ in what they make of
it. JSON as it is written becomes a tree by `ofWritten`, a value by `ofJson`, and `toJson?` makes
a value of a tree again.
-/

namespace NodeFit

/-- A document tree. -/
inductive Tree where
  | null
  | bool (b : Bool)
  | int (n : Int)
  | float (bits : UInt64)
  | text (s : String)
  | list (items : List Tree)
  | map (entries : List (Tree × Tree))
  | tagged (tag : String) (tree : Tree)
deriving Repr, Inhabited

namespace Tree

/-- Whether a tree is null, without a tag. -/
def isNull : Tree → Bool
  | null => true
  | _ => false

/-- The tree without the tags around it. -/
def untagged : Tree → Tree
  | tagged _ t => t.untagged
  | t => t

/-! ## From JSON -/

mutual

/-- The tree of a JSON value. -/
def ofJson : Json → Tree
  | .null => null
  | .bool b => bool b
  | .int n => int n
  | .float bits => float bits
  | .text s => text s
  | .list items => list (ofJsonItems items)
  | .object fields => map (ofJsonFields fields)

def ofJsonItems : List Json → List Tree
  | [] => []
  | item :: rest => ofJson item :: ofJsonItems rest

def ofJsonFields : List (String × Json) → List (Tree × Tree)
  | [] => []
  | (name, value) :: rest => (text name, ofJson value) :: ofJsonFields rest

end

/-- Stands for a part of a text that has no value; nothing reads it, since no rule
for JSON accepts a tag. -/
def invalid : Tree := tagged "invalid" null

mutual

/-- The tree of a text, each member in its place.  Parts without a value, such as a
number out of range, do harm only where they are read. -/
def ofWritten : Json.Written → Tree
  | .null => null
  | .bool b => bool b
  | .number n => (n.toJson?.map ofJson).getD invalid
  | .text body => ((Json.Written.textOf? body).map text).getD invalid
  | .list items => list (ofWrittenItems items)
  | .object members => map (ofWrittenMembers members)

def ofWrittenItems : List Json.Written → List Tree
  | [] => []
  | item :: rest => ofWritten item :: ofWrittenItems rest

def ofWrittenMembers : List (Bytes × Json.Written) → List (Tree × Tree)
  | [] => []
  | (name, value) :: rest =>
    (((Json.Written.textOf? name).map text).getD invalid, ofWritten value)
      :: ofWrittenMembers rest

end

/-! ## To JSON -/

mutual

/-- Whether no part of a tree carries a tag. -/
def isPlain : Tree → Bool
  | tagged _ _ => false
  | list items => arePlainItems items
  | map entries => arePlainEntries entries
  | _ => true

def arePlainItems : List Tree → Bool
  | [] => true
  | item :: rest => item.isPlain && arePlainItems rest

def arePlainEntries : List (Tree × Tree) → Bool
  | [] => true
  | (key, value) :: rest => key.isPlain && value.isPlain && arePlainEntries rest

end

mutual

/-- The JSON value of a tree.  Infinities and values that are no numbers become null;
keys must be texts. -/
def toJson? : Tree → Option Json
  | null => some .null
  | bool b => some (.bool b)
  | int n => some (.int n)
  | float bits => some (if Text.Binary64.isFinite bits then .float bits else .null)
  | text s => some (.text s)
  | list items => (toJsonItems? items).map .list
  | map entries => (toJsonFields? entries).map .ofFields
  | tagged _ _ => none

def toJsonItems? : List Tree → Option (List Json)
  | [] => some []
  | item :: rest => do
    let item ← item.toJson?
    let rest ← toJsonItems? rest
    return item :: rest

def toJsonFields? : List (Tree × Tree) → Option (List (String × Json))
  | [] => some []
  | (key, value) :: rest => do
    let .text name := key | none
    let value ← value.toJson?
    let rest ← toJsonFields? rest
    return (name, value) :: rest

end

end Tree
end NodeFit
