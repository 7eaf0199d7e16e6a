import NodeFit.Yaml.Token

/-!
# NodeFit.Yaml.Node

Nodes: the collections and scalars of a document, as its tokens lay them out.

Aliases are not resolved and scalars have no value yet.  A text holds at most one
document; an empty text holds none.

The tokens are read by recursive descent, with a fuel that none of them exhausts.  What is left
empty between indicators is an empty scalar; whether one is meant depends on the token that
follows (`takeOrEmpty?`).  Tags are resolved here, by the handles of the document (`Handles`).
-/

namespace NodeFit.Yaml

/-- What may stand in front of a node. -/
structure Properties where
  anchor : Option String
  tag : Option String
deriving DecidableEq, Repr

def Properties.none : Properties := ⟨.none, .none⟩

/-- A node, whose aliases name their targets by values of some type. -/
inductive Node (α : Type) where
  | alias (target : α)
  /-- A scalar, and whether it is plain. -/
  | scalar (p : Properties) (text : String) (plain : Bool)
  | sequence (p : Properties) (items : List (Node α))
  | mapping (p : Properties) (entries : List (Node α × Node α))
deriving Repr

namespace Node

/-- The scalar that stands where nothing is written. -/
def empty (p : Properties) : Node String := scalar p "" true

/-! ## Tags -/

/-- What the handles of tags stand for. -/
abbrev Handles := List (String × String)

/-- The handles that every document knows. -/
def defaultHandles : Handles := [("!", "!"), ("!!", "tag:yaml.org,2002:")]

/-- The full tag of a written one. -/
def resolveTag? (handles : Handles) (t : WrittenTag) : Option String :=
  if t.handle.isEmpty then some t.suffix else (handles.lookup t.handle).map (· ++ t.suffix)

def takeProperties? (handles : Handles) : List Token → Option (Properties × List Token)
  | .anchor a :: .tag t :: rest => do return (⟨some a, some (← resolveTag? handles t)⟩, rest)
  | .tag t :: .anchor a :: rest => do return (⟨some a, some (← resolveTag? handles t)⟩, rest)
  | .anchor a :: rest => some (⟨some a, none⟩, rest)
  | .tag t :: rest => do return (⟨none, some (← resolveTag? handles t)⟩, rest)
  | rest => some (.none, rest)

/-! ## Where nothing is written -/

/-- Whether an item of a block sequence is left empty. -/
def endsItem : List Token → Bool
  | .blockEntry :: _ => true
  | .blockEnd :: _ => true
  | _ => false

/-- Whether a key or a value of a block mapping is left empty. -/
def endsEntry : List Token → Bool
  | .key :: _ => true
  | .value :: _ => true
  | .blockEnd :: _ => true
  | _ => false

/-- Whether an item of a sequence that is not indented is left empty. -/
def endsLooseItem (ts : List Token) : Bool := endsItem ts || endsEntry ts

/-- Whether a value in a flow sequence is left empty. -/
def endsFlowItem : List Token → Bool
  | .flowEntry :: _ => true
  | .flowSequenceEnd :: _ => true
  | _ => false

/-- Whether a value of a flow mapping is left empty. -/
def endsFlowValue : List Token → Bool
  | .flowEntry :: _ => true
  | .flowMappingEnd :: _ => true
  | _ => false

/-- What follows a comma; in front of the first item there is none. -/
def dropFlowEntry? (first : Bool) : List Token → Option (List Token)
  | .flowEntry :: rest => if first then some (.flowEntry :: rest) else some rest
  | rest => if first then some rest else none

/-! ## Collections -/

mutual

/-- A node in front.  Block collections are allowed only where the flag says so, and a
block sequence may go without indentation only as a part of a mapping. -/
def take? (handles : Handles) (block loose : Bool) :
    Nat → List Token → Option (Node String × List Token)
  | 0, _ => none
  | _ + 1, .alias name :: rest => some (.alias name, rest)
  | fuel + 1, ts => do
    let (p, ts) ← takeProperties? handles ts
    match ts, block, loose with
    | .blockEntry :: _, _, true =>
      let (items, ts) ← takeLooseItems? handles fuel ts
      return (.sequence p items, ts)
    | .scalar text plain :: rest, _, _ =>
      let p := if p.tag == some "!" then { p with tag := none } else p
      return (.scalar p text plain, rest)
    | .flowSequenceStart :: rest, _, _ =>
      let (items, ts) ← takeFlowItems? handles true fuel rest
      return (.sequence p items, ts)
    | .flowMappingStart :: rest, _, _ =>
      let (entries, ts) ← takeFlowEntries? handles true fuel rest
      return (.mapping p entries, ts)
    | .blockSequenceStart :: rest, true, _ =>
      let (items, ts) ← takeBlockItems? handles fuel rest
      return (.sequence p items, ts)
    | .blockMappingStart :: rest, true, _ =>
      let (entries, ts) ← takeBlockEntries? handles fuel rest
      return (.mapping p entries, ts)
    | ts, _, _ => if p == .none then none else return (empty p, ts)

/-- A node, unless nothing is written in its place. -/
def takeOrEmpty? (handles : Handles) (block loose isEmpty : Bool) :
    Nat → List Token → Option (Node String × List Token)
  | 0, _ => none
  | fuel + 1, ts =>
    if isEmpty then some (empty .none, ts) else take? handles block loose fuel ts

def takeBlockItems? (handles : Handles) :
    Nat → List Token → Option (List (Node String) × List Token)
  | 0, _ => none
  | fuel + 1, .blockEntry :: ts => do
    let (item, ts) ← takeOrEmpty? handles true false (endsItem ts) fuel ts
    let (items, ts) ← takeBlockItems? handles fuel ts
    return (item :: items, ts)
  | _ + 1, .blockEnd :: ts => some ([], ts)
  | _ + 1, _ => none

/-- The items of a block sequence that is not indented. -/
def takeLooseItems? (handles : Handles) :
    Nat → List Token → Option (List (Node String) × List Token)
  | 0, _ => none
  | fuel + 1, .blockEntry :: ts => do
    let (item, ts) ← takeOrEmpty? handles true false (endsLooseItem ts) fuel ts
    let (items, ts) ← takeLooseItems? handles fuel ts
    return (item :: items, ts)
  | _ + 1, ts => some ([], ts)

/-- The value of an entry of a block mapping, which may be left out. -/
def takeBlockValue? (handles : Handles) : Nat → List Token → Option (Node String × List Token)
  | 0, _ => none
  | fuel + 1, .value :: ts => takeOrEmpty? handles true true (endsEntry ts) fuel ts
  | _ + 1, ts => some (empty .none, ts)

def takeBlockEntries? (handles : Handles) :
    Nat → List Token → Option (List (Node String × Node String) × List Token)
  | 0, _ => none
  | fuel + 1, .key :: ts => do
    let (key, ts) ← takeOrEmpty? handles true true (endsEntry ts) fuel ts
    let (value, ts) ← takeBlockValue? handles fuel ts
    let (entries, ts) ← takeBlockEntries? handles fuel ts
    return ((key, value) :: entries, ts)
  | _ + 1, .blockEnd :: ts => some ([], ts)
  | _ + 1, _ => none

/-- The single entry that stands for a mapping in a flow sequence.  Where its key is
left out, the token in that place is passed over. -/
def takeFlowPair? (handles : Handles) :
    Nat → List Token → Option ((Node String × Node String) × List Token)
  | 0, _ => none
  | fuel + 1, ts => do
    let isEmpty := endsFlowItem ts || ts.head? == some .value
    let (key, ts) ←
      if isEmpty then some (empty .none, ts.drop 1) else take? handles false false fuel ts
    match ts with
    | .value :: ts =>
      let (value, ts) ← takeOrEmpty? handles false false (endsFlowItem ts) fuel ts
      return ((key, value), ts)
    | ts => return ((key, empty .none), ts)

def takeFlowItems? (handles : Handles) (first : Bool) :
    Nat → List Token → Option (List (Node String) × List Token)
  | 0, _ => none
  | _ + 1, .flowSequenceEnd :: ts => some ([], ts)
  | fuel + 1, ts => do
    match ← dropFlowEntry? first ts with
    | .flowSequenceEnd :: ts => return ([], ts)
    | .key :: ts =>
      let (pair, ts) ← takeFlowPair? handles fuel ts
      let (items, ts) ← takeFlowItems? handles false fuel ts
      return (.mapping .none [pair] :: items, ts)
    | ts =>
      let (item, ts) ← take? handles false false fuel ts
      let (items, ts) ← takeFlowItems? handles false fuel ts
      return (item :: items, ts)

/-- The value of an entry of a flow mapping, which may be left out. -/
def takeFlowValue? (handles : Handles) : Nat → List Token → Option (Node String × List Token)
  | 0, _ => none
  | fuel + 1, .value :: ts => takeOrEmpty? handles false false (endsFlowValue ts) fuel ts
  | _ + 1, ts => some (empty .none, ts)

def takeFlowEntries? (handles : Handles) (first : Bool) :
    Nat → List Token → Option (List (Node String × Node String) × List Token)
  | 0, _ => none
  | _ + 1, .flowMappingEnd :: ts => some ([], ts)
  | fuel + 1, ts => do
    match ← dropFlowEntry? first ts with
    | .flowMappingEnd :: ts => return ([], ts)
    | .key :: ts =>
      let isEmpty := endsFlowValue ts || ts.head? == some .value
      let (key, ts) ← takeOrEmpty? handles false false isEmpty fuel ts
      let (value, ts) ← takeFlowValue? handles fuel ts
      let (entries, ts) ← takeFlowEntries? handles false fuel ts
      return ((key, value) :: entries, ts)
    | ts =>
      let (key, ts) ← take? handles false false fuel ts
      let (entries, ts) ← takeFlowEntries? handles false fuel ts
      return ((key, empty .none) :: entries, ts)

end

/-! ## Documents -/

/-- The handles of a document with some directives.  There is at most one version,
which must be 1.1 or 1.2, and each handle is given once. -/
def handles? : List Directive → Option Handles
  | [] => some defaultHandles
  | .version major minor :: rest =>
    let isVersion : Directive → Bool
      | .version _ _ => true
      | _ => false
    if major == 1 && (minor == 1 || minor == 2) && !rest.any isVersion then handles? rest else none
  | .tag handle lead :: rest =>
    let gives : Directive → Bool
      | .tag other _ => other == handle
      | _ => false
    if rest.any gives then none else (handles? rest).map ((handle, lead) :: ·)

def takeDirectives : List Token → List Directive × List Token
  | .directive d :: rest =>
    let (ds, rest) := takeDirectives rest
    (d :: ds, rest)
  | rest => ([], rest)

def endsDocument : List Token → Bool
  | [] => true
  | .directive _ :: _ => true
  | .documentStart :: _ => true
  | .documentEnd :: _ => true
  | _ => false

/-- A fuel that no document exhausts: no step goes without a token more than twice. -/
def fuelFor (ts : List Token) : Nat := 4 * ts.length + 4

/-- The node of a document in front. -/
def takeDocument? (ts : List Token) : Option (Node String × List Token) :=
  match takeDirectives ts with
  | (directives, .documentStart :: rest) => do
    let handles ← handles? directives
    if endsDocument rest then some (empty .none, rest)
    else take? handles true false (fuelFor rest) rest
  | ([], ts) => take? defaultHandles true false (fuelFor ts) ts
  | _ => none

/-- The node of a text's only document, if there is one. -/
def ofTokens? : List Token → Option (Option (Node String))
  | [] => some none
  | ts => do
    let (node, rest) ← takeDocument? ts
    if (rest.dropWhile (· == .documentEnd)).isEmpty then some (some node) else none

end Node
end NodeFit.Yaml
