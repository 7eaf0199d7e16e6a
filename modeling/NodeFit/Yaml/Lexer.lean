import NodeFit.Yaml.Block
import NodeFit.Yaml.Plain
import NodeFit.Yaml.Quoted
import NodeFit.Yaml.Token

/-!
# NodeFit.Yaml.Lexer

The tokens of a text.

A node that turns out to be a key, because a colon follows it, has its key token put
in front of it afterwards.  That is possible while the node may still be a key: it
must lie in one line and within 1024 characters.  In block style indentation opens
and closes collections.

The state (`Lexer`) holds the tokens so far, the columns of the block collections that are open,
and the places where a key may still have to be put in.  Each kind of token has a function that
takes it at the cursor, and `takeToken?` chooses among them by the characters in front.  A
character that starts no token refuses the whole text.
-/

namespace NodeFit.Yaml

/-- A node that may turn out to be a key. -/
structure PossibleKey where
  /-- Whether nothing else than a key may stand there. -/
  required : Bool
  /-- The number of tokens in front of it. -/
  position : Nat
  index : Nat
  line : Nat
  column : Nat
deriving Repr

/-- What is known half way through a text. -/
structure Lexer where
  cursor : Cursor
  /-- The tokens so far, latest first. -/
  tokens : List Token
  /-- The column of the innermost block collection; below zero if there is none. -/
  indent : Int
  /-- The columns of the block collections around it. -/
  outer : List Int
  /-- The possible key of the block context and of each flow collection, innermost
  first. -/
  keys : List (Option PossibleKey)
  keyAllowed : Bool
deriving Repr

namespace Lexer

def start (cs : List Char) : Lexer := ⟨.start cs, [], -1, [], [none], true⟩

def inFlow (l : Lexer) : Bool := 1 < l.keys.length

/-! ## Tokens -/

def push (l : Lexer) (t : Token) : Lexer := { l with tokens := t :: l.tokens }

/-- Appends a token that takes some characters of the line. -/
def pushOver (l : Lexer) (width : Nat) (t : Token) : Lexer :=
  { l.push t with cursor := l.cursor.skip width }

/-- Appends a token and moves to the cursor behind it. -/
def pushTo (l : Lexer) (t : Token) (c : Cursor) : Lexer := { l.push t with cursor := c }

/-- Puts a token in front of all but the first tokens. -/
def insert (l : Lexer) (position : Nat) (t : Token) : Lexer :=
  let later := l.tokens.length - position
  { l with tokens := l.tokens.take later ++ t :: l.tokens.drop later }

/-! ## Possible keys -/

/-- Gives up the innermost possible key, which must not be required. -/
def dropKey? (l : Lexer) : Option Lexer :=
  match l.keys with
  | some key :: outer => if key.required then none else some { l with keys := none :: outer }
  | _ => some l

/-- Makes the node at the cursor a possible key, where one is allowed. -/
def saveKey? (l : Lexer) : Option Lexer :=
  if l.keyAllowed then do
    let required := !l.inFlow && l.indent == (l.cursor.column : Int)
    let c := l.cursor
    let l ← l.dropKey?
    return { l with
      keys := some ⟨required, l.tokens.length, c.index, c.line, c.column⟩ :: l.keys.drop 1 }
  else some l

/-- Whether a possible key has been left behind. -/
def isStale (c : Cursor) (key : PossibleKey) : Bool :=
  key.line < c.line || key.index + 1024 < c.index

/-- Gives up the possible keys that have been left behind; none of them must be
required. -/
def dropStaleKeys? (l : Lexer) : Option Lexer := do
  let keys ← l.keys.mapM fun key =>
    match key with
    | some key =>
      if isStale l.cursor key then (if key.required then none else some none)
      else some (some key)
    | none => some none
  return { l with keys }

/-! ## Indentation -/

/-- Opens a block collection where the column goes beyond the innermost one. -/
def roll (l : Lexer) (column position : Nat) (opening : Token) : Lexer :=
  if !l.inFlow && l.indent < (column : Int) then
    { l.insert position opening with indent := column, outer := l.indent :: l.outer }
  else l

/-- Closes block collections, innermost first, that lie beyond a column. -/
def closeBeyond (column : Int) : List Int → Int → List Token → List Token × Int × List Int
  | [], indent, tokens => (tokens, indent, [])
  | next :: outer, indent, tokens =>
    if column < indent then closeBeyond column outer next (.blockEnd :: tokens)
    else (tokens, indent, next :: outer)

/-- Closes the block collections that lie beyond a column. -/
def unroll (l : Lexer) (column : Int) : Lexer :=
  if l.inFlow then l
  else
    let (tokens, indent, outer) := closeBeyond column l.outer l.indent l.tokens
    { l with tokens, indent, outer }

/-! ## Between tokens -/

/-- Moves over blanks, comments and line breaks.  A tab counts as a blank where no key
may start.  In block style a key may start in a new line. -/
def skipBetween : Nat → Lexer → Lexer
  | 0, l => l
  | fuel + 1, l =>
    let tabs := l.inFlow || !l.keyAllowed
    let c := l.cursor
    let c := if c.index == 0 && c.head? == some byteOrderMark then c.skip 1 else c
    let c := (c.skipWhile fun ch => ch == ' ' || (tabs && ch == '\t')).skipComment
    if c.rest.head?.any isBreak then
      skipBetween fuel { l with cursor := c.skipBreak, keyAllowed := l.keyAllowed || !l.inFlow }
    else { l with cursor := c }

/-! ## Single tokens -/

/-- Closes all block collections and gives up the possible key. -/
def leaveBlocks? (l : Lexer) : Option Lexer := do
  let l ← (l.unroll (-1)).dropKey?
  return { l with keyAllowed := false }

def takeDirective? (l : Lexer) : Option Lexer := do
  let l ← l.leaveBlocks?
  let (d, c) ← Yaml.takeDirective? (l.cursor.skip 1)
  return l.pushTo (.directive d) c

def takeMarker? (l : Lexer) (t : Token) : Option Lexer := do
  let l ← l.leaveBlocks?
  return l.pushOver 3 t

def openFlow? (l : Lexer) (t : Token) : Option Lexer := do
  let l ← l.saveKey?
  return { l.pushOver 1 t with keys := none :: l.keys, keyAllowed := true }

def closeFlow? (l : Lexer) (t : Token) : Option Lexer := do
  let l ← l.dropKey?
  let keys := if l.inFlow then l.keys.drop 1 else l.keys
  return { l.pushOver 1 t with keys, keyAllowed := false }

def takeFlowEntry? (l : Lexer) : Option Lexer := do
  let l ← l.dropKey?
  return { l.pushOver 1 .flowEntry with keyAllowed := true }

/-- Opens a block collection at the cursor; in flow style nothing is opened. -/
def rollHere? (l : Lexer) (opening : Token) : Option Lexer :=
  if l.inFlow then some l
  else if l.keyAllowed then some (l.roll l.cursor.column l.tokens.length opening)
  else none

def takeBlockEntry? (l : Lexer) : Option Lexer := do
  let l ← l.rollHere? .blockSequenceStart
  let l ← l.dropKey?
  return { l.pushOver 1 .blockEntry with keyAllowed := true }

def takeKey? (l : Lexer) : Option Lexer := do
  let l ← l.rollHere? .blockMappingStart
  let l ← l.dropKey?
  return { l.pushOver 1 .key with keyAllowed := !l.inFlow }

/-- A colon: the possible key, if there is one, becomes a key. -/
def takeValue? (l : Lexer) : Option Lexer :=
  match l.keys with
  | some key :: outer =>
    let l := l.insert key.position .key
    let l := l.roll key.column key.position .blockMappingStart
    some { l.pushOver 1 .value with keys := none :: outer, keyAllowed := false }
  | _ => do
    let l ← l.rollHere? .blockMappingStart
    return { l.pushOver 1 .value with keyAllowed := !l.inFlow }

/-- A node that may be a key. -/
def takeNode? (l : Lexer) (take : Cursor → Option (Token × Cursor)) : Option Lexer := do
  let l ← l.saveKey?
  let (t, c) ← take l.cursor
  return { l.pushTo t c with keyAllowed := false }

/-- An anchor or an alias. -/
def takeAnchor? (l : Lexer) (token : String → Token) : Option Lexer :=
  l.takeNode? fun c => (takeName? (c.skip 1)).map fun (name, c) => (token name, c)

def takeTag? (l : Lexer) : Option Lexer :=
  l.takeNode? fun c => (Yaml.takeTag? l.inFlow c).map fun (t, c) => (.tag t, c)

def takeQuoted? (l : Lexer) (double : Bool) : Option Lexer :=
  l.takeNode? fun c =>
    (Yaml.takeQuoted? double (c.rest.length + 1) (c.skip 1)).map fun (text, c) =>
      (.scalar (String.ofList text) false, c)

def takeBlock? (l : Lexer) (folded : Bool) : Option Lexer := do
  let l ← l.dropKey?
  let (text, c) ← Yaml.takeBlock? folded l.indent (l.cursor.skip 1)
  return { l.pushTo (.scalar (String.ofList text) false) c with keyAllowed := true }

def takePlain? (l : Lexer) : Option Lexer := do
  let l ← l.saveKey?
  let c := l.cursor
  let s ← Yaml.takePlain? l.inFlow (l.indent + 1).toNat (c.rest.length + 1) .none c
  return { l.pushTo (.scalar (String.ofList s.text) true) s.cursor with
    keyAllowed := s.atLineStart }

/-- The characters that start no plain scalar. -/
def isIndicator (c : Char) : Bool :=
  "-?:,[]\x7b\x7d#&*!|>'\"%@".toList.contains c || c.toNat == 0x60

/-- Whether a plain scalar starts at the cursor. -/
def startsPlain (l : Lexer) (ch : Char) (rest : List Char) : Bool :=
  !(isBlank ch || isBreak ch || isIndicator ch)
    || (ch == '-' && !rest.head?.any isBlank)
    || (!l.inFlow && (ch == '?' || ch == ':') && !atBlank rest)

/-- The token at a cursor that stands before one. -/
def takeToken? (l : Lexer) (ch : Char) (rest : List Char) : Option Lexer :=
  let apart := atBlank rest
  let atStart := l.cursor.column == 0
  if atStart && ch == '%' then l.takeDirective?
  else if atStart && atMarker '-' l.cursor.rest then l.takeMarker? .documentStart
  else if atStart && atMarker '.' l.cursor.rest then l.takeMarker? .documentEnd
  else if ch == '[' then l.openFlow? .flowSequenceStart
  else if ch == '\x7b' then l.openFlow? .flowMappingStart
  else if ch == ']' then l.closeFlow? .flowSequenceEnd
  else if ch == '\x7d' then l.closeFlow? .flowMappingEnd
  else if ch == ',' then l.takeFlowEntry?
  else if ch == '-' && apart then l.takeBlockEntry?
  else if ch == '?' && (l.inFlow || apart) then l.takeKey?
  else if ch == ':' && (l.inFlow || apart) then l.takeValue?
  else if ch == '*' then l.takeAnchor? .alias
  else if ch == '&' then l.takeAnchor? .anchor
  else if ch == '!' then l.takeTag?
  else if ch == '|' && !l.inFlow then l.takeBlock? false
  else if ch == '>' && !l.inFlow then l.takeBlock? true
  else if ch == '\'' then l.takeQuoted? false
  else if ch == '"' then l.takeQuoted? true
  else if l.startsPlain ch rest then l.takePlain?
  else none

/-! ## All tokens -/

def run : Nat → Lexer → Option Lexer
  | 0, _ => none
  | fuel + 1, l => do
    let l ← (skipBetween (l.cursor.rest.length + 1) l).dropStaleKeys?
    let l := l.unroll l.cursor.column
    match l.cursor.rest with
    | [] => l.leaveBlocks?
    | ch :: rest =>
      let l ← l.takeToken? ch rest
      run fuel l

end Lexer

/-- The tokens of a text.  Each step takes a character, so that the length of the text
is fuel enough. -/
def tokens? (cs : List Char) : Option (List Token) :=
  if cs.all isAllowed then
    (Lexer.run (cs.length + 1) (.start cs)).map fun l => l.tokens.reverse
  else none

end NodeFit.Yaml
