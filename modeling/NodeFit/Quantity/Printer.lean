import NodeFit.Quantity
import NodeFit.Text.Decimal

/-!
# NodeFit.Quantity.Printer

Writing quantities in canonical form.

A whole number of units takes the largest suffix of its family that divides it
exactly; a binary amount that no binary suffix divides is written in the decimal
family.  Any other amount is written in the largest of milli-, micro- and
nano-units that makes it whole.

The sign stands in front of all, and the least amount is written like any other, although its digits
are beyond the range of a quantity that is read.  Zero is `0` in every family.
-/

namespace NodeFit.Quantity

/-- The mantissa and the suffix for the largest of some suffixes, given in
ascending order of their factors, whose factor divides a number. -/
def largestSuffix? (factor : Nat → Nat) (suffixes : List (Nat × String)) (units : Nat) :
    Option (Nat × String) :=
  (suffixes.reverse.find? fun entry => units % factor entry.1 == 0).map
    fun entry => (units / factor entry.1, entry.2)

/-- Whole units in the decimal family. -/
def decimalParts (units : Nat) : Nat × String :=
  (largestSuffix? (Nat.pow 10) wholeSuffixes units).getD (units, "")

/-- Whole units in the binary family, or in the decimal one if that fails. -/
def binaryParts (units : Nat) : Nat × String :=
  (largestSuffix? (Nat.pow 2) binarySuffixes units).getD (decimalParts units)

/-- Takes out of a number all its factors of a thousand, raising an exponent by three
for each.  Zero has no end of such factors and is left as it is. -/
def dropThousands (units exponent : Nat) : Nat × Nat :=
  if 0 < units ∧ units % 1000 = 0 then dropThousands (units / 1000) (exponent + 3)
  else (units, exponent)
termination_by units
decreasing_by omega

/-- Whole units in the exponent family. -/
def exponentParts (units : Nat) : Nat × String :=
  let (mantissa, exponent) := dropThousands units 0
  (mantissa, if exponent == 0 then "" else "e" ++ Text.decimal exponent)

/-- An amount that is not a whole number of units. -/
def fractionParts (nanos : Nat) : Nat × String :=
  if nanos % Nat.pow 10 6 == 0 then (nanos / Nat.pow 10 6, "m")
  else if nanos % Nat.pow 10 3 == 0 then (nanos / Nat.pow 10 3, "u")
  else (nanos, "n")

/-- The mantissa and the suffix of a magnitude in nano-units. -/
def parts (format : QuantityFormat) (nanos : Nat) : Nat × String :=
  if nanos % nanosPerUnit != 0 then fractionParts nanos
  else
    let units := nanos / nanosPerUnit
    if units == 0 then (0, "")
    else match format with
      | .binarySI => binaryParts units
      | .decimalSI => decimalParts units
      | .decimalExponent => exponentParts units

/-- The characters of a quantity: sign, mantissa and suffix. -/
def chars (q : Quantity) : List Char :=
  let (mantissa, suffix) := parts q.format q.nano.natAbs
  (if q.nano < 0 then ['-'] else []) ++ Text.natDigits mantissa ++ suffix.toList

/-- The canonical text of a quantity. -/
def text (q : Quantity) : String := String.ofList q.chars

end NodeFit.Quantity
