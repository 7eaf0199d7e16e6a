import NodeFit.Yaml.Gap

/-!
# NodeFit.Yaml.Plain

Plain scalars: text without quotes.

A plain scalar ends at a colon or a comment that stands apart, at a marker of a
document, at an indicator of the flow style that it is in, and in block style at a
line that is not indented far enough.

A plain scalar may go on over several lines, which fold as those of a quoted one do
(`NodeFit.Yaml.Gap`).
-/

namespace NodeFit.Yaml

/-- The indicators that end a plain scalar in flow style. -/
def isFlowIndicator (c : Char) : Bool :=
  c == ',' || c == '[' || c == ']' || c == '\x7b' || c == '\x7d'

/-- The length of the piece of a plain scalar up to a blank or to its end.  A colon in
front of an indicator of the flow style is refused there. -/
def plainLength? (flow : Bool) : List Char → Option Nat
  | [] => some 0
  | c :: rest =>
    if isBlank c || isBreak c then some 0
    else if c == ':' && flow && rest.head?.any (fun d => isFlowIndicator d || d == '?') then none
    else if c == ':' && atBlank rest then some 0
    else if flow && isFlowIndicator c then some 0
    else (plainLength? flow rest).map (· + 1)

/-- A scalar that was read, the cursor behind it, and whether it ended at the start of
a line. -/
structure PlainScalar where
  text : List Char
  cursor : Cursor
  atLineStart : Bool

/-- The rest of a plain scalar behind a gap.  In block style lines must be indented up
to the given column. -/
def takePlain? (flow : Bool) (indent : Nat) : Nat → Gap → Cursor → Option PlainScalar
  | 0, g, c => some ⟨[], c, g.broken⟩
  | fuel + 1, g, c => do
    if c.atDocumentMarker || c.head? == some '#' then return ⟨[], c, g.broken⟩
    let length ← plainLength? flow c.rest
    let piece := c.rest.take length
    let before := if piece.isEmpty then g else Gap.none
    let c' := c.skip length
    let lead := if piece.isEmpty then [] else g.text ++ piece
    if c'.rest.head?.any fun ch => isBlank ch || isBreak ch then
      let (gap, next) ← before.take? indent c'.rest.length c'
      if !flow && next.column < indent then return ⟨lead, next, gap.broken⟩
      let later ← takePlain? flow indent fuel gap next
      return { later with text := lead ++ later.text }
    else
      return ⟨lead, c', before.broken⟩

end NodeFit.Yaml
