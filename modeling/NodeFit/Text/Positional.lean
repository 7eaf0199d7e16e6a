import NodeFit.Text.Binary64
import NodeFit.Text.Decimal

/-!
# NodeFit.Text.Positional

Binary floating-point numbers in positional notation.

A number has the fewest digits that read back, and as many zeros as its place asks for;
it never has an exponent.  Whole numbers have no point.

The digits are those of `Binary64.shortest`, with the point put where the power of ten says.
-/

namespace NodeFit.Text

/-- Digits with a point before the last places; at least one digit stands before it. -/
def withPoint (digits : List Char) (places : Nat) : List Char :=
  let padded := List.replicate (places + 1 - digits.length) '0' ++ digits
  let whole := padded.length - places
  padded.take whole ++ '.' :: padded.drop whole

/-- A positive decimal without an exponent. -/
def positionalDigits (d : DecimalFloat) : List Char :=
  let digits := natDigits d.digits
  if 0 ≤ d.exponent then digits ++ List.replicate d.exponent.toNat '0'
  else withPoint digits (-d.exponent).toNat

/-- A finite number without an exponent. -/
def positional (bits : UInt64) : String :=
  let sign := if Binary64.isNegative bits then ['-'] else []
  let digits :=
    if Binary64.significand bits == 0 then ['0'] else positionalDigits (Binary64.shortest bits)
  String.ofList (sign ++ digits)

end NodeFit.Text
