import NodeFit.Yaml.Gap

/-!
# NodeFit.Yaml.Quoted

Scalars in single and in double quotes.

In single quotes a quote is written twice and nothing else is special.  In double
quotes a backslash introduces an escape; one at the end of a line joins the lines.

The text is taken in pieces, each of which ends at the closing quote, at a gap or at an escaped line
break (`PieceEnd`); gaps fold.
-/

namespace NodeFit.Yaml

def hexValue? (cs : List Char) : Option Nat :=
  cs.foldlM (fun n c =>
    if c.isDigit then some (n * 16 + (c.toNat - 0x30))
    else if 'a' ≤ c && c ≤ 'f' then some (n * 16 + (c.toNat - 0x57))
    else if 'A' ≤ c && c ≤ 'F' then some (n * 16 + (c.toNat - 0x37))
    else none) 0

/-- The character of a code point written with a number of hexadecimal digits, and the
count of characters that write it. -/
def codePoint? (digits : Nat) (cs : List Char) : Option (Char × Nat) := do
  let written := cs.take digits
  guard (written.length == digits)
  let n ← hexValue? written
  guard (n < 0xD800 || (0xDFFF < n && n ≤ 0x10FFFF))
  return (Char.ofNat n, digits)

/-- The character that an escape stands for, given what follows the backslash, and the
count of characters that write it. -/
def escape? : List Char → Option (Char × Nat)
  | [] => none
  | c :: rest =>
    let longer := fun (p : Char × Nat) => (p.1, p.2 + 1)
    match c with
    | '0' => some ('\x00', 1)
    | 'a' => some ('\x07', 1)
    | 'b' => some ('\x08', 1)
    | 't' => some ('\t', 1)
    | '\t' => some ('\t', 1)
    | 'n' => some ('\n', 1)
    | 'v' => some ('\x0b', 1)
    | 'f' => some ('\x0c', 1)
    | 'r' => some ('\r', 1)
    | 'e' => some ('\x1b', 1)
    | ' ' => some (' ', 1)
    | '"' => some ('"', 1)
    | '/' => some ('/', 1)
    | '\\' => some ('\\', 1)
    | 'N' => some ('\u0085', 1)
    | '_' => some ('\u00a0', 1)
    | 'L' => some ('\u2028', 1)
    | 'P' => some ('\u2029', 1)
    | 'x' => (codePoint? 2 rest).map longer
    | 'u' => (codePoint? 4 rest).map longer
    | 'U' => (codePoint? 8 rest).map longer
    | _ => none

/-- What ends a piece of a quoted scalar. -/
inductive PieceEnd where
  | quote
  | gap
  /-- An escaped line break. -/
  | join

/-- The piece of a quoted scalar up to a blank or the closing quote, what ends it, and
the cursor there. -/
def takePiece? (double : Bool) : Nat → Cursor → Option (List Char × PieceEnd × Cursor)
  | 0, _ => none
  | fuel + 1, c =>
    let add (ch : Char) (width : Nat) :=
      (takePiece? double fuel (c.skip width)).map fun (piece, e) => (ch :: piece, e)
    match c.rest with
    | [] => some ([], .gap, c)
    | ch :: rest =>
      if isBlank ch || isBreak ch then some ([], .gap, c)
      else if double then
        if ch == '"' then some ([], .quote, c)
        else if ch == '\\' then
          if rest.head?.any isBreak then some ([], .join, (c.skip 1).skipBreak)
          else do
            let (value, width) ← escape? rest
            add value (width + 1)
        else add ch 1
      else if ch == '\'' then
        if rest.head? == some '\'' then add '\'' 2 else some ([], .quote, c)
      else add ch 1

/-- The rest of a quoted scalar, the closing quote included.  No document may start or
end in it. -/
def takeQuoted? (double : Bool) : Nat → Cursor → Option (List Char × Cursor)
  | 0, _ => none
  | fuel + 1, c => do
    guard (!c.atDocumentMarker && !c.rest.isEmpty)
    let (piece, e, c) ← takePiece? double (c.rest.length + 1) c
    let continueAfter (g : Gap) : Option (List Char × Cursor) := do
      let (gap, c) ← g.take? 0 c.rest.length c
      let (later, c) ← takeQuoted? double fuel c
      return (piece ++ gap.text ++ later, c)
    match e with
    | .quote => return (piece, c.skip 1)
    | .gap => continueAfter .none
    | .join => continueAfter .escaped

end NodeFit.Yaml
