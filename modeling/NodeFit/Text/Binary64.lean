/-!
# NodeFit.Text.Binary64

Binary floating-point numbers of 64 bits and decimal numbers.

A finite number is written with the fewest digits that still lie closer to it
than to any other number of the format, and of those digits the nearest to its
exact value.  A decimal number is read as the nearest number of the format, of two
as the one whose last bit is zero.  All arithmetic is on integers.

The shortest decimal is found by going through decimal grids from the coarsest on (`shortest`): the
first with a point that reads back as the number gives the digits.  No bound has to be shown for
this search, since the list of grids covers the format.  Reading rounds an
exact quotient once (`ofRatio`).
-/

namespace NodeFit.Text

/-- A decimal number: digits and a power of ten. -/
structure DecimalFloat where
  digits : Nat
  exponent : Int
deriving DecidableEq, Repr

namespace Binary64

/-- Whether the sign bit is set. -/
def isNegative (bits : UInt64) : Bool := Nat.pow 2 63 ≤ bits.toNat

/-- The eleven bits of the exponent. -/
def exponentField (bits : UInt64) : Nat := bits.toNat / Nat.pow 2 52 % Nat.pow 2 11

/-- The lower 52 bits. -/
def fractionField (bits : UInt64) : Nat := bits.toNat % Nat.pow 2 52

/-- Infinities and the values that are no numbers have the greatest exponent. -/
def isFinite (bits : UInt64) : Bool := exponentField bits != 2047

/-- The whole number `m` of a finite value `m * 2 ^ q`. -/
def significand (bits : UInt64) : Nat :=
  if exponentField bits == 0 then fractionField bits else fractionField bits + Nat.pow 2 52

/-- The power `q` of a finite value `m * 2 ^ q`. -/
def power (bits : UInt64) : Int :=
  if exponentField bits == 0 then -1074 else (exponentField bits : Int) - 1075

/-- The point of a decimal grid nearest to a value, if it reads back as the value.
The value is `4 * m` and the bounds of what reads back are `low` and `high`, all in
units of `2 ^ a`; the bounds themselves count when `m` is even. -/
def gridPoint? (m low high : Nat) (a s : Int) : Option Nat :=
  let scale := Nat.pow 2 a.toNat * Nat.pow 10 (-s).toNat
  let step := Nat.pow 10 s.toNat * Nat.pow 2 (-a).toNat
  let value := 4 * m * scale
  let below := value / step
  let inside (d : Nat) : Bool :=
    d != 0 &&
      if m % 2 == 0 then low * scale ≤ d * step && d * step ≤ high * scale
      else low * scale < d * step && d * step < high * scale
  let above := below + 1
  let downBy := value - below * step
  let upBy := above * step - value
  let downFirst := downBy < upBy || (downBy == upBy && below % 2 == 0)
  let (first, second) := if downFirst then (below, above) else (above, below)
  if inside first then some first else if inside second then some second else none

/-- The shortest decimal of a positive finite value: the coarsest grid with a point
that reads back gives it. -/
def shortest (bits : UInt64) : DecimalFloat :=
  let m := significand bits
  let narrow := fractionField bits == 0 && 1 < exponentField bits
  let low := if narrow then 4 * m - 1 else 4 * m - 2
  let grids := (List.range 660).map fun (i : Nat) => (310 : Int) - i
  (grids.findSome? fun s =>
    (gridPoint? m low (4 * m + 2) (power bits - 2) s).map fun d => ⟨d, s⟩).getD ⟨0, 0⟩

/-! ## Reading -/

def infinity : Nat := 2047 * Nat.pow 2 52

/-- A quotient rounded to the nearest integer, halves to the even one. -/
def roundDiv (num den : Nat) : Nat :=
  let q := num / den
  let r := num % den
  if 2 * r < den || (2 * r == den && q % 2 == 0) then q else q + 1

/-- The bits of the number nearest to a positive quotient; beyond the largest number
they are those of infinity.  The power of two is chosen so that the significand has 53
bits, or fewer at the lower end of the format. -/
def ofRatio (num den : Nat) : Nat :=
  let estimate : Int := max ((num.log2 : Int) - den.log2 - 53) (-1074)
  let tooMany := Nat.pow 2 53 * den * Nat.pow 2 estimate.toNat ≤ num * Nat.pow 2 (-estimate).toNat
  let power := if tooMany then estimate + 1 else estimate
  let significand := roundDiv (num * Nat.pow 2 (-power).toNat) (den * Nat.pow 2 power.toNat)
  min infinity (((power + 1075).toNat - 1) * Nat.pow 2 52 + significand)

/-- The bits of the number nearest to a decimal.  Beyond four hundred digits before or
behind the point it is infinity or zero. -/
def ofDecimal (negative : Bool) (d : DecimalFloat) : UInt64 :=
  let size := (Nat.toDigits 10 d.digits).length + d.exponent
  let magnitude :=
    if d.digits == 0 || size < -400 then 0
    else if 400 < size then infinity
    else ofRatio (d.digits * Nat.pow 10 d.exponent.toNat) (Nat.pow 10 (-d.exponent).toNat)
  (if negative then magnitude + Nat.pow 2 63 else magnitude).toUInt64

/-- The power of ten nearest to the exact one. -/
def powerOfTen (power : Nat) : Float := Float.ofBits (ofDecimal false ⟨1, power⟩)

end Binary64
end NodeFit.Text
