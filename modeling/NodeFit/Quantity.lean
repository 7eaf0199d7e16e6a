import NodeFit.Text.Quoted

/-!
# NodeFit.Quantity

Resource quantities: exact amounts counted in nano-units.

A quantity is a signed number of nano-units of 128 bits together with the
family of suffixes it was written in.  The family only steers how the quantity
is written back; comparison looks at the amount alone, so `1Gi` and
`1073741824` are the same amount.

A quantity is well-formed by its type: the structure carries the bounds of its amount.  Every
amount in between is allowed, zero in any family as well, and an integer that lies beyond the range
is made a quantity by moving it to the nearer end (`Quantity.clamp`).  Sums are taken in that way
and take on the family of the first part, unless that is zero.
-/

namespace NodeFit

/-- The suffix family of a written quantity. -/
inductive QuantityFormat where
  /-- Powers of ten by suffix: `n`, `u`, `m`, none, `k` to `E`. -/
  | decimalSI
  /-- Powers of 1024 by suffix: `Ki` to `Ei`. -/
  | binarySI
  /-- Powers of ten by exponent: `e3`. -/
  | decimalExponent
deriving DecidableEq, Repr

/-- The first magnitude that a quantity cannot hold. -/
def Quantity.limit : Nat := Nat.pow 2 127

/-- An amount in nano-units that fits 128 bits, and the family it is written in. -/
structure Quantity where
  /-- The amount, in thousand-millionths of a unit. -/
  nano : Int
  /-- The family that the text of the quantity prefers. -/
  format : QuantityFormat
  le_nano : -(Quantity.limit : Int) ≤ nano
  nano_lt : nano < (Quantity.limit : Int)
deriving DecidableEq, Repr

/-- Why a text is not a quantity. -/
inductive QuantityError where
  /-- There is no text at all. -/
  | empty
  /-- The numeral has no digit, or more than one point. -/
  | invalidNumber (input : String)
  /-- What follows the numeral is no suffix and no exponent. -/
  | unknownSuffix (input suffix : String)
  /-- The amount does not fit, or its scale does not. -/
  | outOfRange (input : String)
deriving DecidableEq, Repr

def QuantityError.message : QuantityError → String
  | .empty => "quantity is empty"
  | .invalidNumber input => "invalid number in quantity " ++ Text.quoted input
  | .unknownSuffix input suffix =>
    "unknown suffix " ++ Text.quoted suffix ++ " in quantity " ++ Text.quoted input
  | .outOfRange input => "quantity " ++ Text.quoted input ++ " is out of range"

namespace Quantity

/-- Nano-units in one unit. -/
def nanosPerUnit : Nat := Nat.pow 10 9

def zero : Quantity := ⟨0, .decimalSI, by decide, by decide⟩

def isZero (q : Quantity) : Bool := q.nano == 0

/-- The order of two quantities is that of their amounts. -/
def compare (q r : Quantity) : Ordering := Ord.compare q.nano r.nano

/-- Whether one amount is at most another. -/
def le (q r : Quantity) : Bool := decide (q.nano ≤ r.nano)

/-- The quantity of an amount, moved to the nearer end of the range when the
amount lies outside. -/
def clamp (nano : Int) (format : QuantityFormat) : Quantity :=
  if h : nano < -(limit : Int) then ⟨-(limit : Int), format, by decide, by decide⟩
  else if h' : nano < (limit : Int) then ⟨nano, format, by omega, h'⟩
  else ⟨(limit : Int) - 1, format, by decide, by decide⟩

/-- Addition stays in range by stopping at its ends.  A sum keeps the family of
its left side, except that a left side of zero has no say. -/
def add (q r : Quantity) : Quantity :=
  clamp (q.nano + r.nano) (if q.isZero then r.format else q.format)

/-! ## Suffixes -/

/-- The binary suffixes, each with its power of two. -/
def binarySuffixes : List (Nat × String) :=
  [(10, "Ki"), (20, "Mi"), (30, "Gi"), (40, "Ti"), (50, "Pi"), (60, "Ei")]

/-- The decimal suffixes for whole units and more, each with its power of ten. -/
def wholeSuffixes : List (Nat × String) :=
  [(3, "k"), (6, "M"), (9, "G"), (12, "T"), (15, "P"), (18, "E")]

/-- The decimal suffixes for parts of a unit, each with its power of ten. -/
def partSuffixes : List (Int × String) := [(-9, "n"), (-6, "u"), (-3, "m")]

end Quantity
end NodeFit
