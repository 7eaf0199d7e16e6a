import NodeFit.Yaml.Lexer
import NodeFit.Yaml.Node
import NodeFit.Yaml.Scalar

/-!
# NodeFit.Yaml.Parser

Reading a YAML text as a document tree.

An anchor is known from the start of its node on.  Anchors are numbered by how many
different names have been used before; of the nodes with one number, aliases stand
for the last.  Aliases may repeat nodes at most a hundred times as often as there
are parts in the document, and collections nest at most 128 deep.  No map has two
entries with the same key.

Two passes lead from a node to its tree.  In the first, aliases get the numbers of their anchors
(`link?`).  The second builds the tree (`build`): an alias is the tree of its target, a scalar
has its value, and the keys of a map are compared (`sameKey`).  It counts how often aliases are
followed, and stops when the bound is passed.
-/

namespace NodeFit.Yaml

/-! ## Anchors -/

/-- What is known of the anchors half way through a document. -/
structure Anchors where
  /-- The names used so far with their numbers, latest first. -/
  names : List (String × Nat)
  /-- How many nodes have had an anchor. -/
  count : Nat
  /-- The nodes by their numbers, each with its place in the order of anchors. -/
  nodes : List (Nat × Nat × Node Nat)

namespace Anchors

def empty : Anchors := ⟨[], 0, []⟩

/-- Gives a name the next number. -/
def name (a : Anchors) (s : String) : Anchors :=
  { a with
    names := (s, a.names.length) :: a.names.filter (·.1 != s)
    count := a.count + 1 }

/-- The number and the place that the anchor of a node is about to get, if it has one. -/
def next (a : Anchors) (p : Properties) : Option (Nat × Nat) :=
  p.anchor.map fun _ => (a.names.length, a.count)

/-- Enters the anchor of a node. -/
def enter (a : Anchors) (p : Properties) : Anchors := p.anchor.elim a a.name

/-- Keeps a node for the number and the place of its anchor. -/
def keep (a : Anchors) (slot : Option (Nat × Nat)) (node : Node Nat) : Anchors :=
  match slot with
  | none => a
  | some (number, place) => { a with nodes := (number, place, node) :: a.nodes }

/-- The last node with a number. -/
def node? (a : Anchors) (number : Nat) : Option (Node Nat) :=
  let candidates := a.nodes.filter (·.1 == number)
  let last := candidates.foldl (fun best candidate =>
    match best with
    | none => some candidate.2
    | some (place, node) => if place < candidate.2.1 then some candidate.2 else some (place, node))
    (none : Option (Nat × Node Nat))
  last.map Prod.snd

end Anchors

mutual

/-- A node with its aliases by number, in the order in which nodes start. -/
def link? (a : Anchors) : Node String → Option (Node Nat × Anchors)
  | .alias name => (a.names.lookup name).map fun number => (.alias number, a)
  | .scalar p text plain =>
    let node := .scalar p text plain
    some (node, (a.enter p).keep (a.next p) node)
  | .sequence p items => do
    let (items, later) ← linkItems? (a.enter p) items
    let node := .sequence p items
    return (node, later.keep (a.next p) node)
  | .mapping p entries => do
    let (entries, later) ← linkEntries? (a.enter p) entries
    let node := .mapping p entries
    return (node, later.keep (a.next p) node)

def linkItems? (a : Anchors) : List (Node String) → Option (List (Node Nat) × Anchors)
  | [] => some ([], a)
  | item :: rest => do
    let (item, a) ← link? a item
    let (rest, a) ← linkItems? a rest
    return (item :: rest, a)

def linkEntries? (a : Anchors) :
    List (Node String × Node String) → Option (List (Node Nat × Node Nat) × Anchors)
  | [] => some ([], a)
  | (key, value) :: rest => do
    let (key, a) ← link? a key
    let (value, a) ← link? a value
    let (rest, a) ← linkEntries? a rest
    return ((key, value) :: rest, a)

end

/-! ## Parts and keys -/

mutual

/-- The number of parts of a node: scalars, aliases, and the starts and ends of
collections. -/
def parts : Node String → Nat
  | .alias _ => 1
  | .scalar _ _ _ => 1
  | .sequence _ items => 2 + itemParts items
  | .mapping _ entries => 2 + entryParts entries

def itemParts : List (Node String) → Nat
  | [] => 0
  | item :: rest => parts item + itemParts rest

def entryParts : List (Node String × Node String) → Nat
  | [] => 0
  | (key, value) :: rest => parts key + parts value + entryParts rest

end

mutual

/-- Whether two trees are the same key.  The order of the entries of a map does not
matter, and floating-point numbers are compared by value. -/
def sameKey : Tree → Tree → Bool
  | .null, .null => true
  | .bool a, .bool b => a == b
  | .int m, .int n => m == n
  | .float x, .float y =>
    x == y || Float.ofBits x == Float.ofBits y
      || ((Float.ofBits x).isNaN && (Float.ofBits y).isNaN)
  | .text s, .text t => s == t
  | .list xs, .list ys => sameItems xs ys
  | .map xs, .map ys => xs.length == ys.length && entriesIn xs ys
  | .tagged s x, .tagged t y => s == t && sameKey x y
  | _, _ => false

def sameItems : List Tree → List Tree → Bool
  | [], [] => true
  | x :: xs, y :: ys => sameKey x y && sameItems xs ys
  | _, _ => false

/-- Whether each of some entries is among others. -/
def entriesIn : List (Tree × Tree) → List (Tree × Tree) → Bool
  | [], _ => true
  | (key, value) :: rest, others =>
    others.any (fun entry => sameKey key entry.1 && sameKey value entry.2)
      && entriesIn rest others

end

/-! ## Trees -/

/-- The deepest nesting of collections. -/
def maxDepth : Nat := 128

/-- A computation that counts how often aliases are followed. -/
abbrev Building := StateT Nat Option

/-- The limit on following aliases, and the nodes of anchors. -/
structure Limits where
  jumps : Nat
  anchors : Anchors

/-- The node that stands for a node: that of its target for an alias.  The flag tells
whether an alias was followed. -/
def follow (limits : Limits) : Node Nat → Building (Node Nat × Bool)
  | .alias number => do
    let jumps := (← get) + 1
    set jumps
    guard (jumps ≤ limits.jumps)
    return (← (limits.anchors.node? number : Option (Node Nat)), true)
  | node => return (node, false)

/-- The document's own tag of a node, which starts with an exclamation mark; the mark is
left out unless it is all. -/
def ownTag? (p : Properties) : Option String :=
  match p.tag.map String.toList with
  | some ['!'] => some "!"
  | some ('!' :: rest) => some (String.ofList rest)
  | _ => none

/-- The value of a scalar.  One that is already known to be tagged loses its own tag. -/
def scalarTree? (known : Bool) (p : Properties) (text : String) (plain : Bool) : Option Tree :=
  let value := if plain then Scalar.plain? text else some (.text text)
  if known then value
  else match ownTag? p, p.tag with
    | some tag, _ => value.map (.tagged tag)
    | none, some tag => Scalar.tagged? tag text
    | none, none => value

/-- Puts the document's own tag of a collection around it, unless it is already known to
be tagged. -/
def withOwnTag (known : Bool) (p : Properties) (t : Tree) : Tree :=
  if known then t else (ownTag? p).elim t fun tag => .tagged tag t

/-- Entries without a key that occurs before. -/
def distinct? : List (Tree × Tree) → Building (List (Tree × Tree))
  | entries => do
    let rec check : List (Tree × Tree) → Bool
      | [] => true
      | (key, _) :: rest => !rest.any (fun entry => sameKey key entry.1) && check rest
    guard (check entries)
    return entries

/-- The tree of a node.  The keys of a tagged map count as known to be tagged. -/
def build (limits : Limits) : Nat → Bool → Node Nat → Building Tree
  | depth, known, node => do
    let (node, followed) ← follow limits node
    let known := known && !followed
    match depth, node with
    | _, .scalar p text plain => (scalarTree? known p text plain : Option Tree)
    | depth + 1, .sequence p items =>
      let items ← items.mapM (build limits depth false)
      return withOwnTag known p (.list items)
    | depth + 1, .mapping p entries =>
      let keysKnown := known || (ownTag? p).isSome
      let entries ← entries.mapM fun entry => do
        let key ← build limits depth keysKnown entry.1
        let value ← build limits depth false entry.2
        return (key, value)
      return withOwnTag known p (.map (← distinct? entries))
    | _, _ => failure

/-- The tree of a document's node. -/
def ofNode? (node : Node String) : Option Tree := do
  let (linked, anchors) ← link? .empty node
  let (tree, _) ← (build ⟨100 * parts node, anchors⟩ maxDepth false linked).run 0
  return tree

/-- The tree of a text; a text without a document is null. -/
def parse? (s : String) : Option Tree := do
  let ts ← tokens? s.toList
  match ← Node.ofTokens? ts with
  | none => return .null
  | some node => ofNode? node

end NodeFit.Yaml
