import NodeFit.Yaml.Gap

/-!
# NodeFit.Yaml.Block

Block scalars: lines of text set off by their indentation.

The header tells whether lines fold and what becomes of the line breaks at the end;
it may give the indentation, which otherwise is that of the first line that is not
empty.  A folded line break is kept beside a line that starts with a blank.

The seam between two lines (`BlockSeam`) decides what becomes of the break between them, from the
indentation of either and the empty lines in between.
-/

namespace NodeFit.Yaml

/-- What becomes of the line breaks at the end. -/
inductive Chomping where
  /-- All go. -/
  | strip
  /-- One stays. -/
  | clip
  /-- All stay. -/
  | keep
deriving DecidableEq, Repr

/-- The header of a block scalar. -/
structure BlockHeader where
  chomping : Chomping
  /-- The indentation beyond that of the context, if it is given. -/
  increment : Option Nat

namespace BlockHeader

def chomping? : Option Char → Option Chomping
  | some '+' => some .keep
  | some '-' => some .strip
  | _ => none

/-- The increment in front, which is not zero; none if there is no digit. -/
def takeIncrement? (c : Cursor) : Option (Option Nat × Cursor) :=
  match c.head? with
  | some d =>
    if d == '0' then none
    else if d.isDigit then some (some (d.toNat - 0x30), c.skip 1)
    else some (none, c)
  | none => some (none, c)

/-- A header up to the start of the next line. -/
def take? (c : Cursor) : Option (BlockHeader × Cursor) := do
  let (header, c) ← match chomping? c.head? with
    | some chomping => do
      let (increment, c) ← takeIncrement? (c.skip 1)
      pure (⟨chomping, increment⟩, c)
    | none => do
      let (increment, c) ← takeIncrement? c
      match increment, chomping? c.head? with
      | some _, some chomping => pure (⟨chomping, increment⟩, c.skip 1)
      | _, _ => pure (⟨.clip, increment⟩, c)
  let c ← c.skipLineEnd?
  return (header, c)

end BlockHeader

/-- The indentation and the empty lines in front of a line.  While the indentation is
not known every space belongs to it; a tab before it is refused. -/
structure BlockLead where
  /-- The line breaks of the empty lines. -/
  breaks : List Char
  /-- The widest indentation met. -/
  widest : Nat
  cursor : Cursor

/-- The rest of the empty lines in front of a line. -/
def takeLead? (indent : Option Nat) : Nat → BlockLead → Option BlockLead
  | 0, lead => some lead
  | fuel + 1, lead =>
    let before (column : Nat) : Bool := indent.all (column < ·)
    let room := indent.elim lead.cursor.rest.length (· - lead.cursor.column)
    let spaces := ((lead.cursor.rest.take room).takeWhile (· == ' ')).length
    let c := lead.cursor.skip spaces
    let lead := { lead with cursor := c, widest := max lead.widest c.column }
    match c.rest with
    | [] => some lead
    | ch :: _ =>
      if before c.column && ch == '\t' then none
      else if isBreak ch then
        let (lineBreak, c) := c.takeBreak
        takeLead? indent fuel { lead with breaks := lead.breaks ++ lineBreak, cursor := c }
      else some lead

/-- What is known between two lines of a block scalar. -/
structure BlockSeam where
  /-- The line break behind the last line. -/
  first : List Char
  /-- The line breaks of empty lines. -/
  further : List Char
  /-- Whether the last line starts with a blank. -/
  blankBefore : Bool

/-- What a seam stands for in front of a line that starts with a blank or not. -/
def BlockSeam.text (s : BlockSeam) (folded blankAfter : Bool) : List Char :=
  if folded && s.first == ['\n'] && !s.blankBefore && !blankAfter then
    (if s.further.isEmpty then [' '] else []) ++ s.further
  else s.first ++ s.further

/-- The rest of the lines of a block scalar with a given indentation. -/
def takeLines? (folded : Bool) (chomping : Chomping) (indent : Nat) :
    Nat → BlockSeam → Cursor → Option (List Char × Cursor)
  | 0, _, _ => none
  | fuel + 1, seam, c =>
    if c.column == indent && !c.rest.isEmpty then do
      let blank := c.rest.head?.any isBlank
      let (line, c) := c.takeWhile fun ch => !isBreak ch
      let (lineBreak, c) := c.takeBreak
      let lead ← takeLead? (some indent) (c.rest.length + 1) ⟨[], 0, c⟩
      let (later, c) ←
        takeLines? folded chomping indent fuel ⟨lineBreak, lead.breaks, blank⟩ lead.cursor
      return (seam.text folded blank ++ line ++ later, c)
    else
      match chomping with
      | .strip => some ([], c)
      | .clip => some (seam.first, c)
      | .keep => some (seam.first ++ seam.further, c)

/-- A block scalar behind its indicator.  The context's indentation is below zero at
the outermost level. -/
def takeBlock? (folded : Bool) (context : Int) (c : Cursor) : Option (List Char × Cursor) := do
  let (header, c) ← BlockHeader.take? c
  let given := header.increment.map fun n => if 0 ≤ context then context.toNat + n else n
  let lead ← takeLead? given (c.rest.length + 1) ⟨[], 0, c⟩
  let least := max (context + 1).toNat 1
  let indent := given.getD (max lead.widest least)
  takeLines? folded header.chomping indent (lead.cursor.rest.length + 1)
    ⟨[], lead.breaks, false⟩ lead.cursor

end NodeFit.Yaml
