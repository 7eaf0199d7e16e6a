import NodeFit.Json
import NodeFit.Text.Decimal
import NodeFit.Text.Binary64

/-!
# NodeFit.Json.Printer

Writing JSON, in one line or indented by two blanks.

Text is escaped no more than JSON demands: quote, backslash and control
characters.  Numbers with a point take the fewest digits that read back.

The two layouts differ in what stands between the parts of lists and objects, and are otherwise
printed by the same functions (`Layout`).  An empty list or object has nothing between its
brackets in either.
-/

namespace NodeFit.Json

/-! ## Numbers -/

/-- A decimal with a point: positional while the point falls among the first sixteen
digits or at most five places before them, otherwise with an exponent. -/
def floatDigits (d : Text.DecimalFloat) : List Char :=
  let digits := Text.natDigits d.digits
  let point := (digits.length : Int) + d.exponent
  if 0 ≤ d.exponent && point ≤ 16 then
    digits ++ List.replicate d.exponent.toNat '0' ++ ['.', '0']
  else if 0 < point && point ≤ 16 then
    digits.take point.toNat ++ '.' :: digits.drop point.toNat
  else if -5 < point && point ≤ 0 then
    ['0', '.'] ++ List.replicate (-point).toNat '0' ++ digits
  else
    digits.take 1 ++ (if digits.length == 1 then [] else '.' :: digits.drop 1)
      ++ 'e' :: Text.intDigits (point - 1)

/-- A finite number with its sign. -/
def floatChars (bits : UInt64) : List Char :=
  (if Text.Binary64.isNegative bits then ['-'] else []) ++
    if Text.Binary64.significand bits == 0 then ['0', '.', '0']
    else floatDigits (Text.Binary64.shortest bits)

/-! ## Text -/

/-- A control character by its four hexadecimal digits. -/
def controlEscape (c : Char) : List Char :=
  ['\\', 'u', '0', '0', Nat.digitChar (c.toNat / 16), Nat.digitChar (c.toNat % 16)]

/-- One character of a text. -/
def escape (c : Char) : List Char :=
  match c with
  | '"' => ['\\', '"']
  | '\\' => ['\\', '\\']
  | '\n' => ['\\', 'n']
  | '\r' => ['\\', 'r']
  | '\t' => ['\\', 't']
  | '\x08' => ['\\', 'b']
  | '\x0c' => ['\\', 'f']
  | c => if c.toNat < 0x20 then controlEscape c else [c]

/-- A text between quotes. -/
def textChars (s : String) : List Char := '"' :: s.toList.flatMap escape ++ ['"']

/-! ## Values -/

/-- How the parts of lists and objects are laid out. -/
structure Layout where
  /-- What stands before an item at some depth. -/
  lineBreak : Nat → List Char
  /-- What stands between a name and its value. -/
  colon : List Char

/-- Everything in one line, without blanks. -/
def Layout.compact : Layout := ⟨fun _ => [], [':']⟩

/-- One item a line, indented by two blanks for each level. -/
def Layout.indented : Layout :=
  ⟨fun depth => '\n' :: List.replicate (2 * depth) ' ', [':', ' ']⟩

/-- Items between brackets; no item leaves nothing between them. -/
def enclose (layout : Layout) (depth : Nat) (opening closing : Char) :
    List (List Char) → List Char
  | [] => [opening, closing]
  | items =>
    let broken := items.map fun item => layout.lineBreak (depth + 1) ++ item
    opening :: List.intercalate [','] broken ++ layout.lineBreak depth ++ [closing]

mutual

/-- The characters of a value at some depth. -/
def chars (layout : Layout) (depth : Nat) : Json → List Char
  | null => ['n', 'u', 'l', 'l']
  | bool true => ['t', 'r', 'u', 'e']
  | bool false => ['f', 'a', 'l', 's', 'e']
  | int n => Text.intDigits n
  | float bits =>
    if Text.Binary64.isFinite bits then floatChars bits else ['n', 'u', 'l', 'l']
  | text s => textChars s
  | list items => enclose layout depth '[' ']' (itemChars layout (depth + 1) items)
  | object fields => enclose layout depth '\x7b' '\x7d' (fieldChars layout (depth + 1) fields)

def itemChars (layout : Layout) (depth : Nat) : List Json → List (List Char)
  | [] => []
  | item :: rest => chars layout depth item :: itemChars layout depth rest

def fieldChars (layout : Layout) (depth : Nat) : List (String × Json) → List (List Char)
  | [] => []
  | (name, value) :: rest =>
    (textChars name ++ layout.colon ++ chars layout depth value)
      :: fieldChars layout depth rest

end

/-- A value in one line. -/
def render (json : Json) : String := String.ofList (chars .compact 0 json)

/-- A value with one item a line. -/
def renderIndented (json : Json) : String := String.ofList (chars .indented 0 json)

end NodeFit.Json
