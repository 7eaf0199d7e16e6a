/-!
# NodeFit.Text.Decimal

Decimal numerals: how numbers are written, and which texts are read back as
integers.

A natural number is written without leading zeros, an integer with `-` in front
when it is negative.  Reading is more liberal: any number of leading zeros and
a sign of either kind are accepted, blanks and separators are not.

`readSigned?` is the reader of exponents, of literals and of the integers of a tree; each
of them has its own width, and a number that does not fit is not read at all.
-/

namespace NodeFit.Text

/-! ## Writing -/

def natDigits (n : Nat) : List Char := Nat.toDigits 10 n

/-- The decimal digits of an integer, after `-` when it is negative. -/
def intDigits (i : Int) : List Char :=
  if i < 0 then '-' :: natDigits i.natAbs else natDigits i.natAbs

def decimal (i : Int) : String := String.ofList (intDigits i)

/-! ## Reading -/

/-- The number that a list of decimal digits denotes; zero for no digit. -/
def natOfDigits (digits : List Char) : Nat := Nat.ofDigitChars 10 digits 0

/-- Removes one leading sign; the flag tells whether it was `-`. -/
def takeSign : List Char → Bool × List Char
  | '-' :: rest => (true, rest)
  | '+' :: rest => (false, rest)
  | rest => (false, rest)

/-- Whether a text is one or more decimal digits. -/
def isNumeral (cs : List Char) : Bool := !cs.isEmpty && cs.all Char.isDigit

/-- Reads an optionally signed digit string. -/
def readInt? (cs : List Char) : Option Int :=
  let (negative, digits) := takeSign cs
  if isNumeral digits then
    some (if negative then -(natOfDigits digits : Int) else (natOfDigits digits : Int))
  else
    none

/-- Whether an integer has a two's complement form of the given width: a number without
sign itself, a negative one by its complement. -/
def fitsSigned (bits : Nat) : Int → Bool
  | .ofNat n => decide (n < Nat.pow 2 (bits - 1))
  | .negSucc n => decide (n < Nat.pow 2 (bits - 1))

/-- The numbers that have a form of a width are those from minus half of the range up to half of
it. -/
theorem fitsSigned_iff {bits : Nat} {i : Int} :
    fitsSigned bits i = true ↔
      -(Nat.pow 2 (bits - 1) : Int) ≤ i ∧ i < (Nat.pow 2 (bits - 1) : Int) := by
  cases i with
  | ofNat n =>
      simp only [fitsSigned, decide_eq_true_iff, Int.ofNat_eq_natCast]
      omega
  | negSucc n =>
      simp only [fitsSigned, decide_eq_true_iff, Int.negSucc_eq]
      omega

/-- Reads an optionally signed digit string whose value fits the given width. -/
def readSigned? (bits : Nat) (cs : List Char) : Option Int :=
  (readInt? cs).filter (fitsSigned bits)

end NodeFit.Text
