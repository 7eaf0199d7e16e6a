import NodeFit.Quantity
import NodeFit.Word

/-!
# NodeFit.Quantity.Parser

Reading quantities.

A written quantity is an optional sign, a numeral of decimal digits with at
most one point, and a suffix that scales it.  The result is exact in
nano-units; anything finer rounds away from zero.  A scale or an amount beyond
the range is reported as out of range, also when a later step would bring the
amount back.

* `Scale.ofSuffix?` finds the scale of a suffix, and with it the family in which
  the amount is printed again.
* `magnitude?` multiplies a numeral out, without its sign.  Every step of it can leave
  the 128 bits that it has, and the order of the steps decides which texts are refused.
* `parseAmount` puts the parts together, and `parse` takes a text apart.

Arithmetic on exponents is a parameter (`Overflow`): a count of places and an exponent may
add up to more than 32 bits hold.
-/

namespace NodeFit.Quantity

/-- What a suffix multiplies the numeral with. -/
inductive Scale where
  /-- A power of two. -/
  | binary (power : Nat)
  /-- A power of ten, by suffix. -/
  | decimal (power : Int)
  /-- A power of ten, by exponent. -/
  | exponent (power : Int)
deriving DecidableEq, Repr

namespace Scale

/-- The family a scale belongs to. -/
def format : Scale → QuantityFormat
  | .binary _ => .binarySI
  | .decimal _ => .decimalSI
  | .exponent _ => .decimalExponent

/-- Reads the exponent form, `e` or `E` and a signed number of 32 bits. -/
def ofExponent? : List Char → Option Scale
  | 'e' :: digits => (Text.readSigned? 32 digits).map exponent
  | 'E' :: digits => (Text.readSigned? 32 digits).map exponent
  | _ => none

/-- The power that a table of suffixes gives a text. -/
def find? {α : Type} (suffixes : List (α × String)) (text : String) : Option α :=
  (suffixes.find? fun entry => entry.2 == text).map Prod.fst

/-- The scale of a suffix: one of the tables, nothing at all, or an exponent. -/
def ofSuffix? (suffix : List Char) : Option Scale :=
  let text := String.ofList suffix
  if text.isEmpty then some (decimal 0)
  else (find? binarySuffixes text).map binary
    <|> (find? partSuffixes text).map decimal
    <|> (find? wholeSuffixes text).map (fun power : Nat => decimal power)
    <|> ofExponent? suffix

end Scale

/-! ## The amount -/

/-- The largest power of ten of 128 bits is the 38th. -/
def maxPower : Nat := 38

/-- A power of ten, if it has 128 bits. -/
def powerOfTen? (power : Int) : Option Int :=
  if 0 ≤ power ∧ power ≤ maxPower then some (Nat.pow 10 power.toNat) else none

section

/- Most operations look at the width of their results and refuse those without a form
of it.  The others leave the matter to `overflow`. -/
variable (overflow : Word.Overflow)

/-- One shifted to the left, if the distance is below 128. -/
def shiftedOne? (distance : Nat) : Option Int :=
  if distance < 128 then overflow.settle 128 (Nat.pow 2 distance) else none

/-- Quotient of a number without sign by a power of ten, rounded up.  From the 39th
power on, the divisor exceeds every number of 128 bits. -/
def ceilDivPower? (n power : Int) : Option Int :=
  if maxPower < power then some (if n = 0 then 0 else 1)
  else do
    let divisor ← powerOfTen? power
    let quotient ← overflow.settle 128 (n.tdiv divisor)
    let remainder ← overflow.settle 128 (n.tmod divisor)
    if remainder = 0 then some quotient else overflow.settle 128 (quotient + 1)

/-- Product of a number without sign and a power of ten, rounded up. -/
def timesPower? (n power : Int) : Option Int :=
  if 0 ≤ power then do
    let factor ← powerOfTen? power
    Word.checked 128 (n * factor)
  else do
    let distance ← overflow.settle 32 (-power)
    ceilDivPower? overflow n distance

/-- The nano-units of a numeral, given as the number its digits denote, the count
of digits behind its point, and its scale; none if a step leaves the range.  Amounts
have 128 bits, counts and exponents have 32. -/
def magnitude? (mantissa places : Nat) (scale : Scale) : Option Int := do
  let mantissa ← Word.checked 128 mantissa
  let places ← Word.checked 32 places
  match scale with
  | .binary power => do
    let factor ← shiftedOne? overflow power
    let scaled ← Word.checked 128 (mantissa * factor)
    let nanos ← Word.checked 128 (scaled * nanosPerUnit)
    ceilDivPower? overflow nanos places
  | .decimal power | .exponent power => do
    let raised ← Word.checked 32 (power + 9)
    let shift ← Word.checked 32 (raised - places)
    timesPower? overflow mantissa shift

end

/-- A number that wraps around at 128 bits is not below the least amount. -/
theorem le_wrap (i : Int) : -(limit : Int) ≤ Word.wrap 128 i := BitVec.le_toInt _

/-- A number that wraps around at 128 bits is not above the greatest amount. -/
theorem wrap_lt (i : Int) : Word.wrap 128 i < (limit : Int) := BitVec.toInt_lt

/-- The quantity of a magnitude and a sign. -/
def ofMagnitude (negative : Bool) (m : Int) (format : QuantityFormat) : Quantity :=
  { nano := Word.wrap 128 (if negative then -m else m)
    format
    le_nano := le_wrap _
    nano_lt := wrap_lt _ }

/-! ## The text -/

def isNumeralChar (c : Char) : Bool := c.isDigit || c == '.'

/-- The count of digits behind the point of a numeral. -/
def places (numeral : List Char) : Nat := ((numeral.dropWhile (· != '.')).drop 1).length

/-- Reads an amount, taken apart into its sign, its numeral and its suffix.  Operations that do
not look at the width of their results wrap around, as in a program that is built without
checks of overflow.  One that is built with them stops instead, at a single distance: where the
exponent plus nine less the places is the least number of 32 bits, as for exponent -2147483648
behind nine places. -/
def parseAmount (input : String) (negative : Bool) (numeral suffix : List Char) :
    Except QuantityError Quantity :=
  let digits := numeral.filter Char.isDigit
  if digits = [] ∨ 1 < numeral.count '.' then .error (.invalidNumber input)
  else match Scale.ofSuffix? suffix with
    | none => .error (.unknownSuffix input (String.ofList suffix))
    | some scale =>
      match magnitude? .wrapped (Text.natOfDigits digits) (places numeral) scale with
      | none => .error (.outOfRange input)
      | some m => .ok (ofMagnitude negative m scale.format)

/-- Reads a quantity. -/
def parse (input : String) : Except QuantityError Quantity :=
  if input = "" then .error .empty
  else
    let (negative, unsigned) := Text.takeSign input.toList
    parseAmount input negative (unsigned.takeWhile isNumeralChar)
      (unsigned.dropWhile isNumeralChar)

end NodeFit.Quantity
