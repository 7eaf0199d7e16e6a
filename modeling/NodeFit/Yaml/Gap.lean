import NodeFit.Yaml.Cursor

/-!
# NodeFit.Yaml.Gap

The blanks and line breaks between two pieces of a scalar, and how they fold.

Within a line blanks stay what they are.  Across lines a single line break is a
space, and of several line breaks the first goes away; blanks around line breaks do
not count.
-/

namespace NodeFit.Yaml

/-- The blanks and line breaks between two pieces of a scalar. -/
structure Gap where
  /-- Blanks before the first line break. -/
  blanks : List Char
  /-- Whether there is a line break. -/
  broken : Bool
  /-- The first line break, unless it was escaped. -/
  first : List Char
  /-- All further line breaks. -/
  further : List Char
deriving Repr

namespace Gap

def none : Gap := ⟨[], false, [], []⟩

/-- A line break that was escaped. -/
def escaped : Gap := ⟨[], true, [], []⟩

/-- Line breaks between two lines of a folded scalar. -/
def foldBreaks (first further : List Char) : List Char :=
  if first == ['\n'] then (if further.isEmpty then [' '] else further) else first ++ further

def text (g : Gap) : List Char := if g.broken then foldBreaks g.first g.further else g.blanks

def addBreak (g : Gap) (lineBreak : List Char) : Gap :=
  if g.broken then { g with further := g.further ++ lineBreak }
  else { g with blanks := [], broken := true, first := lineBreak }

/-- The rest of a gap at a cursor.  At the start of a line tabs before the given column
are refused. -/
def take? (tabLimit : Nat) : Nat → Gap → Cursor → Option (Gap × Cursor)
  | 0, g, c => some (g, c)
  | fuel + 1, g, c =>
    match c.rest with
    | [] => some (g, c)
    | ch :: _ =>
      if isBlank ch then
        if g.broken then
          if ch == '\t' && c.column < tabLimit then Option.none
          else take? tabLimit fuel g (c.skip 1)
        else take? tabLimit fuel { g with blanks := g.blanks ++ [ch] } (c.skip 1)
      else if isBreak ch then
        let (lineBreak, c) := c.takeBreak
        take? tabLimit fuel (g.addBreak lineBreak) c
      else some (g, c)

end Gap
end NodeFit.Yaml
