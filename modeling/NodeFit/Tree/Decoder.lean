import NodeFit.Tree

/-!
# NodeFit.Tree.Decoder

Reading typed values from document trees.

The two formats differ in what they let stand for what.  In JSON a list may give
the fields of a record in order, and a number a field by its position.  In YAML a
null is an empty map or list where one is expected, and tags are passed over.
Neither turns one kind of scalar into another.

A record is read entry by entry, in the order of the document.  Fields it does not
know are ignored, a field given twice is an error, and a missing field keeps the
value that the record starts with.

A decoder returns a value or the first mismatch, and beside it the numbers of entries that lists of
outcomes have lost up to there (`Decoded`).  Decoders are put together in the monad of such
readings.  A record is read with a state, the names seen so far, the record so far and what is left
over (`Reading`), which each entry changes in turn.
-/

namespace NodeFit

/-- The rules that a tree is read by. -/
inductive Format where
  | json
  | yaml
deriving DecidableEq, Repr

/-- A part of a document that is not what its place asks for. -/
structure Mismatch where
  expected : String
deriving DecidableEq, Repr

/-- A value read from a document, or the first mismatch, with the number of entries
dropped from each list of outcomes that lost some on the way. -/
structure Decoded (α : Type) where
  dropped : List Nat
  result : Except Mismatch α

namespace Decoded

variable {α β : Type}

/-- Goes on with a value, if there is one. -/
def bind (d : Decoded α) (f : α → Decoded β) : Decoded β :=
  match d.result with
  | .error e => ⟨d.dropped, .error e⟩
  | .ok a => ⟨d.dropped ++ (f a).dropped, (f a).result⟩

instance : Monad Decoded where
  pure a := ⟨[], .ok a⟩
  bind := bind

/-- The failure to find what is expected. -/
def expected (what : String) : Decoded α := ⟨[], .error ⟨what⟩⟩

/-- A value that must be there. -/
def require (what : String) : Option α → Decoded α
  | some a => pure a
  | none => expected what

end Decoded

namespace Tree

variable {α σ : Type}

/-! ## Scalars, lists and maps -/

/-- A tree with what its format passes over taken away. -/
def stripped (format : Format) (t : Tree) : Tree :=
  match format with
  | .json => t
  | .yaml => t.untagged

def decodeText (format : Format) (t : Tree) : Decoded String :=
  match t.stripped format with
  | text s => pure s
  | _ => .expected "a text"

/-- A value or null. -/
def decodeOption (decode : Tree → Decoded α) (t : Tree) : Decoded (Option α) :=
  match t with
  | null => pure none
  | t => some <$> decode t

def decodeItems (decode : Tree → Decoded α) : List Tree → Decoded (List α)
  | [] => pure []
  | item :: rest => do
    let value ← decode item
    let values ← decodeItems decode rest
    return value :: values

def decodeList (format : Format) (decode : Tree → Decoded α) (t : Tree) : Decoded (List α) :=
  match t.stripped format, format with
  | list items, _ => decodeItems decode items
  | null, .yaml => pure []
  | _, _ => .expected "a list"

def decodeEntries (format : Format) (t : Tree) : Decoded (List (Tree × Tree)) :=
  match t.stripped format, format with
  | map entries, _ => pure entries
  | null, .yaml => pure []
  | _, _ => .expected "a map"

/-- The pairs of a map from texts to texts. -/
def decodeTextPairs (format : Format) : List (Tree × Tree) → Decoded (List (String × String))
  | [] => pure []
  | (key, value) :: rest => do
    let key ← key.decodeText format
    let value ← value.decodeText format
    let pairs ← decodeTextPairs format rest
    return (key, value) :: pairs

def decodeTexts (format : Format) (t : Tree) : Decoded (Dictionary String) := do
  let entries ← t.decodeEntries format
  let pairs ← decodeTextPairs format entries
  return .ofList pairs

/-! ## Records -/

/-- A field of a record: its name, and how its value changes the record. -/
structure RecordField (σ : Type) where
  name : String
  read : Tree → Decoded (σ → σ)

/-- The field whose value is read by a decoder and put in by a setter. -/
def RecordField.of (name : String) (decode : Tree → Decoded α) (set : α → σ → σ) : RecordField σ :=
  ⟨name, fun t => set <$> decode t⟩

/-- What is known of a record half way through its entries. -/
structure Reading (σ : Type) where
  /-- The names of the fields already given. -/
  seen : List String
  record : σ
  /-- Entries that belong to no field, latest first. -/
  others : List (String × Tree)

def Reading.start (record : σ) : Reading σ := ⟨[], record, []⟩

/-- Gives a field its value, once. -/
def Reading.give (r : Reading σ) (field : RecordField σ) (value : Tree) : Decoded (Reading σ) := do
  if r.seen.contains field.name then .expected "a field only once"
  else
    let change ← field.read value
    return { r with seen := field.name :: r.seen, record := change r.record }

/-- The name that a key stands for.  In JSON rules a number that is no less than zero
is the position of a field. -/
def decodeKey (format : Format) (fields : List (RecordField σ)) (key : Tree) : Decoded String :=
  match format, key with
  | .json, int n =>
    if 0 ≤ n then pure ((fields[n.toNat]?).elim "" RecordField.name)
    else .expected "the name of a field"
  | _, key => key.decodeText format

/-- Takes one entry into a record.  Other entries go to a function that may refuse
them or keep them. -/
def Reading.take (r : Reading σ) (fields : List (RecordField σ))
    (other : String → Tree → Reading σ → Decoded (Reading σ)) (name : String) (value : Tree) :
    Decoded (Reading σ) :=
  match fields.find? fun field => field.name == name with
  | some field => r.give field value
  | none => other name value r

/-- Takes entries into a record, in order. -/
def Reading.takeAll (format : Format) (fields : List (RecordField σ))
    (other : String → Tree → Reading σ → Decoded (Reading σ)) :
    Reading σ → List (Tree × Tree) → Decoded (Reading σ)
  | r, [] => pure r
  | r, (key, value) :: rest => do
    let name ← decodeKey format fields key
    let r ← r.take fields other name value
    takeAll format fields other r rest

/-- Gives the fields of a record in order. -/
def Reading.giveAll : Reading σ → List (RecordField σ) → List Tree → Decoded (Reading σ)
  | r, _, [] => pure r
  | r, field :: fields, value :: rest => do
    let r ← r.give field value
    r.giveAll fields rest
  | _, [], _ :: _ => .expected "no further field"

/-- A record, given as a map or, where the format allows it, as a list. -/
def decodeRecord (format : Format) (fields : List (RecordField σ)) (start : σ) (t : Tree) :
    Decoded σ := do
  match t, format with
  | list values, .json =>
    let r ← (Reading.start start).giveAll fields values
    return r.record
  | t, format =>
    let entries ← t.decodeEntries format
    let ignore := fun (_ : String) (_ : Tree) (r : Reading σ) => pure r
    let r ← (Reading.start start).takeAll format fields ignore entries
    return r.record

/-- A record that shares its map with other entries.  Those are kept in order, and must
not carry tags. -/
def decodeOpenRecord (format : Format) (fields : List (RecordField σ)) (start : σ) (t : Tree) :
    Decoded (σ × List (String × Tree)) := do
  let entries ← t.decodeEntries format
  let keep := fun (name : String) (value : Tree) (r : Reading σ) =>
    if value.isPlain then pure { r with others := (name, value) :: r.others }
    else .expected "a value without a tag"
  let r ← (Reading.start start).takeAll format fields keep entries
  return (r.record, r.others.reverse)

end Tree
end NodeFit
