import NodeFit.Cluster.Timestamp
import NodeFit.Tree

/-!
# NodeFit.Cluster.Schema

Schemas of cluster objects.

A schema says what the parts of an object may be.  Fields may be missing or null,
unknown fields may hold anything, and where a field is repeated each value has to
conform while the last one counts.  Nothing else is null, and only a map stands for
an object.

A schema is computed with (`Schema.conforms`), so that a payload can be refused before any part of
it is looked at.  The depth of values that may be anything is bounded, as the nesting of a
JSON text is (`Schema.nestsWithin`).
-/

namespace NodeFit.Cluster

/-- What a value of a cluster object may be. -/
inductive Schema where
  /-- Anything that nests no deeper than given. -/
  | any (depth : Nat)
  | text
  /-- One text only. -/
  | exactly (s : String)
  | bool
  /-- An integer of a number of bits. -/
  | int (bits : Nat)
  /-- An integer of 32 bits or a text. -/
  | intOrText
  | timestamp
  | list (item : Schema)
  /-- A map from texts. -/
  | map (value : Schema)
  /-- A map with known fields. -/
  | object (fields : List (String × Schema))

namespace Schema

def texts : Schema := list text

/-- A map from texts to texts.  Amounts of resources are texts too at this stage. -/
def labels : Schema := map text

mutual

/-- Whether a tree is valid throughout and nests no deeper than given. -/
def nestsWithin (depth : Nat) : Tree → Bool
  | .tagged _ _ => false
  | .list items =>
    match depth with
    | 0 => false
    | depth + 1 => itemsNestWithin depth items
  | .map entries =>
    match depth with
    | 0 => false
    | depth + 1 => entriesNestWithin depth entries
  | _ => true

/-- Whether all items nest no deeper than given. -/
def itemsNestWithin (depth : Nat) : List Tree → Bool
  | [] => true
  | item :: rest => nestsWithin depth item && itemsNestWithin depth rest

/-- Whether all keys and values nest no deeper than given. -/
def entriesNestWithin (depth : Nat) : List (Tree × Tree) → Bool
  | [] => true
  | (key, value) :: rest =>
    nestsWithin depth key && nestsWithin depth value && entriesNestWithin depth rest

end

/-- Whether a schema asks for one text only, which null does not replace. -/
def isExact : Schema → Bool
  | exactly _ => true
  | _ => false

def isTextKey : Tree → Bool
  | .text _ => true
  | _ => false

mutual

/-- Whether a tree conforms to a schema. -/
def conforms : Schema → Tree → Bool
  | any depth, t => nestsWithin depth t
  | text, .text _ => true
  | exactly s, .text t => s == t
  | bool, .bool _ => true
  | int bits, .int n => Text.fitsSigned bits n
  | intOrText, .int n => Text.fitsSigned 32 n
  | intOrText, .text _ => true
  | timestamp, .text s => Timestamp.isValid s
  | list item, .list items => items.all (conforms item)
  | map value, .map entries => entries.all fun entry => isTextKey entry.1 && conforms value entry.2
  | object fields, .map entries => entries.all fun entry => fieldConforms fields entry.1 entry.2
  | _, _ => false

/-- Whether the value of a key conforms to the schema of the field, if there is such a
field. -/
def fieldConforms : List (String × Schema) → Tree → Tree → Bool
  | [], key, _ => isTextKey key
  | (name, schema) :: rest, .text key, value =>
    if name == key then value.isNull && !isExact schema || conforms schema value
    else fieldConforms rest (.text key) value
  | _ :: _, _, _ => false

end

end Schema
end NodeFit.Cluster
