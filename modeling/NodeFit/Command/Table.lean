import NodeFit.Text.Width

/-!
# NodeFit.Command.Table

Tables drawn with lines and rounded corners.

Every column is as wide as its widest line, with a blank on either side.  A cell may have
several lines; the others of its row are filled up below.  One line separates the
headings from the rows, and none the rows from each other.

A cell is the list of its lines, measured in columns of a terminal rather than in characters
(`cellWidth`).  The lines of a table are made row by row, once the widths of all columns are known.
-/

namespace NodeFit

/-- Headings, and rows of as many cells. -/
structure Table where
  headings : List String
  rows : List (List String)

namespace Table

/-- The lines of a cell. -/
abbrev Cell := List (List Char)

/-- The lines that a text breaks into. -/
def cellOf (s : String) : Cell := s.toList.splitOn '\n'

def cellWidth (cell : Cell) : Nat := (cell.map Text.width).foldl max 0

/-- The widths that hold two rows. -/
def widen (widths : List Nat) (row : List Cell) : List Nat :=
  List.zipWith (fun width cell => max width (cellWidth cell)) widths row

/-- A line of a cell, filled up to a width. -/
def filled (width : Nat) (line : List Char) : List Char :=
  ' ' :: line ++ List.replicate (width - Text.width line) ' ' ++ [' ']

/-- A line between rows. -/
def rule (left middle right : Char) (widths : List Nat) : List Char :=
  let strokes := widths.map fun width => List.replicate (width + 2) '─'
  left :: List.intercalate [middle] strokes ++ [right]

/-- One of the lines of a row. -/
def rowLine (widths : List Nat) (row : List Cell) (i : Nat) : List Char :=
  let cells := List.zipWith (fun width (cell : Cell) => filled width (cell[i]?.getD [])) widths row
  '│' :: List.intercalate ['│'] cells ++ ['│']

def rowLines (widths : List Nat) (row : List Cell) : List (List Char) :=
  let height := (row.map List.length).foldl max 0
  (List.range height).map (rowLine widths row)

def lines (t : Table) : List (List Char) :=
  let headings := t.headings.map cellOf
  let rows := t.rows.map fun row => row.map cellOf
  let widths := rows.foldl widen (headings.map cellWidth)
  rule '╭' '┬' '╮' widths :: rowLines widths headings ++ rule '├' '┼' '┤' widths
    :: rows.flatMap (rowLines widths) ++ [rule '╰' '┴' '╯' widths]

/-- A table as lines of text. -/
def render (t : Table) : List String := t.lines.map String.ofList

end Table
end NodeFit
