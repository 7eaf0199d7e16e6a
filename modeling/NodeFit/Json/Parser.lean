import NodeFit.Json
import NodeFit.Json.Written
import NodeFit.Text.Binary64

/-!
# NodeFit.Json.Parser

Reading JSON values.

A text is valid Unicode once its escapes are resolved, a surrogate escape only in
a pair.  A number without point and exponent is an integer while it fits 64 bits,
signed or not.  Any other number is a floating-point number, computed from at most
the first digits that fit 64 bits by one multiplication or division with a power
of ten; one beyond the largest is refused.  Lists and objects nest at most 127
deep.  Of two members of an object with the same name the later one counts.

Reading has two stages.  `Json.Written` takes the text apart without giving its parts a value, and
then each part that is asked for gets one here: texts (`textOf?`), numbers, items and members.
Whoever asks for a part only, such as the name of a field, need not give a value to the others.
-/

namespace NodeFit.Json

/-! ## Texts -/

namespace Written

def hexValue (b : UInt8) : Nat :=
  if b ≤ 0x39 then b.toNat - 0x30 else if b ≤ 0x46 then b.toNat - 0x37 else b.toNat - 0x57

def hexValue4 (a b c d : UInt8) : Nat :=
  ((hexValue a * 16 + hexValue b) * 16 + hexValue c) * 16 + hexValue d

/-- The bytes of a code point. -/
def codePointBytes (n : Nat) : Bytes := String.utf8EncodeChar (Char.ofNat n)

/-- The byte that a backslash and a letter stand for. -/
def shortEscapeByte (b : UInt8) : UInt8 :=
  match b with
  | 0x62 => 0x08
  | 0x66 => 0x0C
  | 0x6E => 0x0A
  | 0x72 => 0x0D
  | 0x74 => 0x09
  | b => b

/-- The bytes of a text with its escapes resolved.  The two halves of a surrogate
pair must follow each other. -/
def resolve? : Bytes → Option Bytes
  | [] => some []
  | 0x5C :: 0x75 :: a :: b :: c :: d :: 0x5C :: 0x75 :: a' :: b' :: c' :: d' :: rest =>
    let n := hexValue4 a b c d
    if 0xD800 ≤ n && n ≤ 0xDBFF then
      let m := hexValue4 a' b' c' d'
      if 0xDC00 ≤ m && m ≤ 0xDFFF then
        (resolve? rest).map
          (codePointBytes (0x10000 + (n - 0xD800) * 0x400 + (m - 0xDC00)) ++ ·)
      else none
    else if 0xDC00 ≤ n && n ≤ 0xDFFF then none
    else
      (resolve? (0x5C :: 0x75 :: a' :: b' :: c' :: d' :: rest)).map (codePointBytes n ++ ·)
  | 0x5C :: 0x75 :: a :: b :: c :: d :: rest =>
    let n := hexValue4 a b c d
    if 0xD800 ≤ n && n ≤ 0xDFFF then none
    else (resolve? rest).map (codePointBytes n ++ ·)
  | 0x5C :: b :: rest => (resolve? rest).map (shortEscapeByte b :: ·)
  | b :: rest => (resolve? rest).map (b :: ·)

/-- The text of some bytes, if they are valid Unicode. -/
def decodeText? (bytes : Bytes) : Option String := String.fromUTF8? ⟨bytes.toArray⟩

/-- The text that stands between two quotes. -/
def textOf? (body : Bytes) : Option String := (resolve? body).bind decodeText?

end Written

/-! ## Numbers -/

/-- A floating-point number scaled by a power of ten.  Below the 308th negative power
the scaling goes in steps, and zero stays zero. -/
def scaleFloat? : Nat → Float → Int → Option Float
  | 0, _, _ => none
  | fuel + 1, f, power =>
    if power.natAbs ≤ 308 then
      let factor := Text.Binary64.powerOfTen power.natAbs
      let scaled := if 0 ≤ power then f * factor else f / factor
      if scaled.isInf then none else some scaled
    else if f == 0 then some f
    else if 0 ≤ power then none
    else scaleFloat? fuel (f / Text.Binary64.powerOfTen 308) (power + 308)

namespace WrittenNumber

/-- The first number that 64 bits cannot hold. -/
def wordLimit : Nat := Nat.pow 2 64

/-- Appends digits to a number while it fits 64 bits, and counts those taken; the flag
tells whether a digit was refused. -/
def absorb (n taken : Nat) : List Nat → Nat × Nat × Bool
  | [] => (n, taken, false)
  | digit :: rest =>
    if n * 10 + digit < wordLimit then absorb (n * 10 + digit) (taken + 1) rest
    else (n, taken, true)

def digitsValue (digits : List Nat) : Nat := digits.foldl (fun n digit => n * 10 + digit) 0

/-- The exponent as written. -/
def exponentValue (n : WrittenNumber) : Int :=
  match n.exponent with
  | none => 0
  | some (negative, digits) =>
    if negative then -(digitsValue digits : Int) else digitsValue digits

/-- The floating-point number of a spelling.  Whole digits beyond 64 bits count as
zeros, further digits behind the point not at all. -/
def toFloat? (n : WrittenNumber) : Option Float := do
  let (whole, taken, _) := absorb 0 0 n.whole
  let dropped := n.whole.length - taken
  let (significand, places, _) := absorb whole 0 (n.fraction.getD [])
  let power := (dropped : Int) - places + n.exponentValue
  let f ← scaleFloat? 4 significand.toUInt64.toFloat power
  return if n.negative then -f else f

/-- The value of a spelling.  Minus zero is a floating-point number. -/
def toJson? (n : WrittenNumber) : Option Json :=
  let whole := digitsValue n.whole
  let isWhole := n.fraction.isNone && n.exponent.isNone
  if isWhole && !n.negative && whole < wordLimit then some (.int whole)
  else if isWhole && n.negative && whole ≤ Nat.pow 2 63 && whole != 0 then some (.int (-(whole : Int)))
  else n.toFloat?.map fun f => .float f.toBits

end WrittenNumber

/-! ## Values -/

/-- The deepest nesting of lists and objects. -/
def maxDepth : Nat := 127

mutual

/-- The value of a tree that may nest to a given depth. -/
def ofWritten? (depth : Nat) : Written → Option Json
  | .null => some null
  | .bool b => some (bool b)
  | .number n => n.toJson?
  | .text body => (Written.textOf? body).map text
  | .list items =>
    match depth with
    | 0 => none
    | depth + 1 => (ofItems? depth items).map list
  | .object members =>
    match depth with
    | 0 => none
    | depth + 1 => (ofMembers? depth members).map ofFields

def ofItems? (depth : Nat) : List Written → Option (List Json)
  | [] => some []
  | item :: rest => do
    let item ← ofWritten? depth item
    let rest ← ofItems? depth rest
    return item :: rest

def ofMembers? (depth : Nat) : List (Bytes × Written) → Option (List (String × Json))
  | [] => some []
  | (name, value) :: rest => do
    let name ← Written.textOf? name
    let value ← ofWritten? depth value
    let rest ← ofMembers? depth rest
    return (name, value) :: rest

end

/-- The value of a text. -/
def parse? (s : String) : Option Json :=
  (Written.ofBytes? s.toUTF8.toList).bind (ofWritten? maxDepth)

end NodeFit.Json
