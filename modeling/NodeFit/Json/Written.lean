import NodeFit.Store

/-!
# NodeFit.Json.Written

JSON as it is written: the tree of a text before its parts are given a value.

The tree keeps the bytes between the quotes of each text, the spelling of each
number, and every member of each object in order.  Whether a text is valid
Unicode, whether a number is in range, and what a repeated name means is left to
those who read the tree, because a part that nobody reads may be wrong in all
three ways.  Nesting is not limited here.

The functions take from the front of a list of bytes and hand on what follows.  Values, items and
members are read by mutual recursion, with a fuel that bounds the number of steps.
-/

namespace NodeFit.Json

/-- The spelling of a number: sign, digits, digits behind the point, and an exponent
with its sign, where the flags stand for `-`. -/
structure WrittenNumber where
  negative : Bool
  whole : List Nat
  fraction : Option (List Nat)
  exponent : Option (Bool × List Nat)
deriving Repr, BEq

/-- A value as it is written. -/
inductive Written where
  | null
  | bool (b : Bool)
  | number (n : WrittenNumber)
  /-- The bytes between the quotes. -/
  | text (body : Bytes)
  | list (items : List Written)
  | object (members : List (Bytes × Written))
deriving Repr, BEq, Inhabited

namespace Written

/-! ## Words -/

/-- The four blanks of JSON. -/
def isBlank (b : UInt8) : Bool := b == 0x20 || b == 0x0A || b == 0x0D || b == 0x09

def skipBlanks (s : Bytes) : Bytes := s.dropWhile isBlank

def isDigit (b : UInt8) : Bool := 0x30 ≤ b && b ≤ 0x39

def isHexDigit (b : UInt8) : Bool :=
  isDigit b || (0x41 ≤ b && b ≤ 0x46) || (0x61 ≤ b && b ≤ 0x66)

/-- The digits in front, and what follows them. -/
def takeDigits (s : Bytes) : List Nat × Bytes :=
  ((s.takeWhile isDigit).map fun b => b.toNat - 0x30, s.dropWhile isDigit)

/-- What follows a fixed word in front. -/
def dropWord? : Bytes → Bytes → Option Bytes
  | [], s => some s
  | w :: word, b :: s => if w == b then dropWord? word s else none
  | _ :: _, [] => none

/-! ## Texts -/

/-- Whether a byte, after a backslash, stands for one character. -/
def isShortEscape (b : UInt8) : Bool :=
  b == 0x22 || b == 0x5C || b == 0x2F || b == 0x62 || b == 0x66 || b == 0x6E || b == 0x72
    || b == 0x74

/-- The bytes up to the closing quote, and what follows it.  Escapes must have their
form and control characters must be escaped. -/
def takeText? : Bytes → Option (Bytes × Bytes)
  | [] => none
  | 0x22 :: rest => some ([], rest)
  | 0x5C :: 0x75 :: a :: b :: c :: d :: rest =>
    if isHexDigit a && isHexDigit b && isHexDigit c && isHexDigit d then
      (takeText? rest).map fun (body, rest) => (0x5C :: 0x75 :: a :: b :: c :: d :: body, rest)
    else none
  | 0x5C :: b :: rest =>
    if isShortEscape b then
      (takeText? rest).map fun (body, rest) => (0x5C :: b :: body, rest)
    else none
  | b :: rest =>
    if b < 0x20 || b == 0x5C then none
    else (takeText? rest).map fun (body, rest) => (b :: body, rest)

/-! ## Numbers -/

/-- A number without its sign: no leading zero, at least one digit behind a point
and in an exponent. -/
def takeNumber? (negative : Bool) (s : Bytes) : Option (WrittenNumber × Bytes) := do
  let (whole, s) := takeDigits s
  guard (whole.length == 1 || (1 < whole.length && whole.head? != some 0))
  let (fraction, s) ← match s with
    | 0x2E :: s =>
      let (digits, s) := takeDigits s
      if digits.isEmpty then none else some (some digits, s)
    | s => some (none, s)
  let takeExponent? (s : Bytes) : Option (Option (Bool × List Nat) × Bytes) :=
    let (negative, s) := match s with
      | 0x2D :: s => (true, s)
      | 0x2B :: s => (false, s)
      | s => (false, s)
    let (digits, s) := takeDigits s
    if digits.isEmpty then none else some (some (negative, digits), s)
  let (exponent, s) ← match s with
    | 0x65 :: s => takeExponent? s
    | 0x45 :: s => takeExponent? s
    | s => some (none, s)
  return (⟨negative, whole, fraction, exponent⟩, s)

/-! ## Values -/

mutual

/-- A value in front, and what follows it.  The fuel bounds the number of steps. -/
def takeValue? : Nat → Bytes → Option (Written × Bytes)
  | 0, _ => none
  | fuel + 1, s =>
    match skipBlanks s with
    | 0x6E :: s => (dropWord? [0x75, 0x6C, 0x6C] s).map (null, ·)
    | 0x74 :: s => (dropWord? [0x72, 0x75, 0x65] s).map (bool true, ·)
    | 0x66 :: s => (dropWord? [0x61, 0x6C, 0x73, 0x65] s).map (bool false, ·)
    | 0x22 :: s => (takeText? s).map fun (body, s) => (text body, s)
    | 0x5B :: s =>
      match skipBlanks s with
      | 0x5D :: s => some (list [], s)
      | s => (takeItems? fuel s).map fun (items, s) => (list items, s)
    | 0x7B :: s =>
      match skipBlanks s with
      | 0x7D :: s => some (object [], s)
      | s => (takeMembers? fuel s).map fun (members, s) => (object members, s)
    | 0x2D :: s => (takeNumber? true s).map fun (n, s) => (number n, s)
    | s => (takeNumber? false s).map fun (n, s) => (number n, s)

def takeItems? : Nat → Bytes → Option (List Written × Bytes)
  | 0, _ => none
  | fuel + 1, s => do
    let (item, s) ← takeValue? fuel s
    match skipBlanks s with
    | 0x2C :: s =>
      let (items, s) ← takeItems? fuel s
      return (item :: items, s)
    | 0x5D :: s => return ([item], s)
    | _ => none

def takeMembers? : Nat → Bytes → Option (List (Bytes × Written) × Bytes)
  | 0, _ => none
  | fuel + 1, s => do
    match skipBlanks s with
    | 0x22 :: s =>
      let (name, s) ← takeText? s
      match skipBlanks s with
      | 0x3A :: s =>
        let (value, s) ← takeValue? fuel s
        match skipBlanks s with
        | 0x2C :: s =>
          let (members, s) ← takeMembers? fuel s
          return ((name, value) :: members, s)
        | 0x7D :: s => return ([(name, value)], s)
        | _ => none
      | _ => none
    | _ => none

end

/-- The tree of a text that is one value and nothing else but blanks.  Each step of
the reader consumes a byte, so that the length of the text is fuel enough. -/
def ofBytes? (s : Bytes) : Option Written :=
  match takeValue? (s.length + 1) s with
  | some (value, rest) => if (skipBlanks rest).isEmpty then some value else none
  | none => none

end Written
end NodeFit.Json
