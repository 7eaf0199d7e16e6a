import NodeFit.Text.Binary64
import NodeFit.Text.Decimal
import NodeFit.Tree

/-!
# NodeFit.Yaml.Scalar

The values of scalars.

A plain scalar without a tag is null, a truth value, an integer, a floating-point
number or a text, whichever it is first.  Integers may be given in base 16, 8 and 2.
Digits behind a leading zero are a text.  An integer beyond 64 bits is refused while
it fits 128 bits; beyond that it is a floating-point number.  Tags of the four
kinds of scalar demand the form of their kind.

Each form is tried on the whole text (`plain?`), so that a scalar with one wrong character is a text
and not a mistake.
-/

namespace NodeFit.Yaml.Scalar

/-! ## Integers -/

def digit? (base : Nat) (c : Char) : Option Nat :=
  let value :=
    if c.isDigit then some (c.toNat - 0x30)
    else if 'a' ≤ c && c ≤ 'z' then some (c.toNat - 0x57)
    else if 'A' ≤ c && c ≤ 'Z' then some (c.toNat - 0x37)
    else none
  value.filter (· < base)

/-- The number that one or more digits denote. -/
def digits? (base : Nat) (cs : List Char) : Option Nat :=
  if cs.isEmpty then none
  else cs.foldlM (fun n c => (digit? base c).map fun d => n * base + d) 0

/-- Whether a text is a leading zero with further digits, behind a sign or not. -/
def isPaddedNumeral (cs : List Char) : Bool :=
  match (Text.takeSign cs).2 with
  | '0' :: c :: rest => (c :: rest).all Char.isDigit
  | _ => false

/-- The integer of a text in front of which the base is given, or which is decimal. -/
def unsigned? (cs : List Char) : Option Nat :=
  match cs with
  | '0' :: 'x' :: rest => digits? 16 rest
  | '0' :: 'o' :: rest => digits? 8 rest
  | '0' :: 'b' :: rest => digits? 2 rest
  | rest => if isPaddedNumeral rest then none else digits? 10 rest

/-- The integer of a text. -/
def integer? (cs : List Char) : Option Int :=
  match cs with
  | '-' :: rest => (unsigned? rest).map fun n => -(n : Int)
  | '+' :: rest => (unsigned? rest).map fun n => (n : Int)
  | rest => (unsigned? rest).map fun n => (n : Int)

/-- Whether an integer fits 64 bits, signed or not. -/
def fitsWord (n : Int) : Bool := decide (-(Nat.pow 2 63 : Int) ≤ n ∧ n < Nat.pow 2 64)

/-- Whether an integer fits 128 bits, signed or not. -/
def fitsDoubleWord (n : Int) : Bool :=
  decide (-(Nat.pow 2 127 : Int) ≤ n ∧ n < Nat.pow 2 128)

/-! ## Floating-point numbers -/

def notANumber : UInt64 := 0x7FF8000000000000

def infinity : UInt64 := 0x7FF0000000000000

def negativeInfinity : UInt64 := 0xFFF0000000000000

/-- The exponent behind a mantissa; nothing is zero. -/
def exponent? : List Char → Option Int
  | [] => some 0
  | 'e' :: rest => Text.readInt? rest
  | 'E' :: rest => Text.readInt? rest
  | _ => none

/-- The decimal of an unsigned text: digits with at most one point among or beside them,
and an exponent. -/
def decimal? (cs : List Char) : Option Text.DecimalFloat := do
  let whole := cs.takeWhile Char.isDigit
  let rest := cs.dropWhile Char.isDigit
  let (fraction, rest) :=
    match rest with
    | '.' :: rest => (rest.takeWhile Char.isDigit, rest.dropWhile Char.isDigit)
    | rest => ([], rest)
  guard (!whole.isEmpty || !fraction.isEmpty)
  let exponent ← exponent? rest
  return ⟨Text.natOfDigits (whole ++ fraction), exponent - fraction.length⟩

/-- The bits of a finite decimal with a sign; one that is too large has none. -/
def finite? (negative : Bool) (cs : List Char) : Option UInt64 := do
  let d ← decimal? cs
  let bits := Text.Binary64.ofDecimal negative d
  if Text.Binary64.isFinite bits then some bits else none

def float? (cs : List Char) : Option UInt64 :=
  match String.ofList cs with
  | ".inf" => some infinity
  | ".Inf" => some infinity
  | ".INF" => some infinity
  | "+.inf" => some infinity
  | "+.Inf" => some infinity
  | "+.INF" => some infinity
  | "-.inf" => some negativeInfinity
  | "-.Inf" => some negativeInfinity
  | "-.INF" => some negativeInfinity
  | ".nan" => some notANumber
  | ".NaN" => some notANumber
  | ".NAN" => some notANumber
  | _ =>
    let (negative, rest) := Text.takeSign cs
    finite? negative rest

/-! ## Values -/

def isNull (s : String) : Bool := s == "null" || s == "Null" || s == "NULL" || s == "~"

def bool? : String → Option Bool
  | "true" => some true
  | "True" => some true
  | "TRUE" => some true
  | "false" => some false
  | "False" => some false
  | "FALSE" => some false
  | _ => none

/-- The integer of a text as a value, if the text is one; the value is missing if the
integer is refused. -/
def intValue? (s : String) : Option (Option Tree) :=
  match integer? s.toList with
  | none => none
  | some n =>
    if fitsWord n then some (some (.int n)) else if fitsDoubleWord n then some none else none

/-- The value of a plain scalar. -/
def plain? (s : String) : Option Tree :=
  if s.isEmpty || isNull s then some .null
  else match bool? s, intValue? s with
    | some b, _ => some (.bool b)
    | none, some value => value
    | none, none =>
      match if isPaddedNumeral s.toList then none else float? s.toList with
      | some bits => some (.float bits)
      | none => some (.text s)

/-- The common start of the tags that every document knows. -/
def coreTag (name : String) : String := "tag:yaml.org,2002:" ++ name

/-- The value of a scalar with a tag that is not the document's own. -/
def tagged? (tag s : String) : Option Tree :=
  if tag == coreTag "bool" then (bool? s).map .bool
  else if tag == coreTag "int" then (intValue? s).join
  else if tag == coreTag "float" then (float? s.toList).map .float
  else if tag == coreTag "null" then (if isNull s then some .null else none)
  else some (.text s)

end NodeFit.Yaml.Scalar
