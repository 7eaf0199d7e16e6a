import NodeFit.Text.Blank
import NodeFit.Text.Decimal

/-!
# NodeFit.Cluster.Timestamp

Points in time as cluster objects give them.

The form is that of RFC 3339 with some liberties: blanks around the parts, fewer
digits, a signed year of any length, `UTC` in place of `Z`, and an offset without
colon.  A second of 60 is a leap second.  The date must exist.

Only whether a text has this form is asked (`isValid`); no use is made of the time.  The parts are
taken off the front one by one, each with what follows it, and a text is a point in time when
nothing is left.
-/

namespace NodeFit.Cluster.Timestamp

def skipBlanks (cs : List Char) : List Char := cs.dropWhile Text.isBlank

/-- A number of one to `width` digits after blanks, and what follows it. -/
def takeNumber? (width : Nat) (cs : List Char) : Option (Nat × List Char) :=
  let cs := skipBlanks cs
  let digits := (cs.take width).takeWhile Char.isDigit
  if digits.isEmpty then none else some (Text.natOfDigits digits, cs.drop digits.length)

/-- A year: four digits at most, or a sign and any number of digits. -/
def takeYear? (cs : List Char) : Option (Int × List Char) :=
  match skipBlanks cs with
  | '-' :: rest => (takeSigned? rest).map fun (n, rest) => (-(n : Int), rest)
  | '+' :: rest => (takeSigned? rest).map fun (n, rest) => ((n : Int), rest)
  | rest => (takeNumber? 4 rest).map fun (n, rest) => ((n : Int), rest)
where
  /-- The digits after a sign, which no blank may separate. -/
  takeSigned? (cs : List Char) : Option (Nat × List Char) :=
    let digits := cs.takeWhile Char.isDigit
    if digits.isEmpty then none else some (Text.natOfDigits digits, cs.drop digits.length)

/-- What follows a separator after blanks. -/
def dropSeparator? (separator : Char) (cs : List Char) : Option (List Char) :=
  match skipBlanks cs with
  | c :: rest => if c == separator then some rest else none
  | [] => none

/-- Whether a year of the common calendar has a 29th of February. -/
def isLeapYear (year : Int) : Bool := year % 4 == 0 && (year % 100 != 0 || year % 400 == 0)

def daysOfMonth (year : Int) (month : Nat) : Nat :=
  match month with
  | 2 => if isLeapYear year then 29 else 28
  | 4 => 30
  | 6 => 30
  | 9 => 30
  | 11 => 30
  | _ => 31

/-- The years that dates are kept for. -/
def maxYear : Int := 262142

/-- Whether a date exists. -/
def isDate (year : Int) (month day : Nat) : Bool :=
  decide (-maxYear ≤ year ∧ year ≤ maxYear)
    && 1 ≤ month && month ≤ 12 && 1 ≤ day && day ≤ daysOfMonth year month

/-- What follows a fraction of a second, if there is one. -/
def dropFraction? : List Char → Option (List Char)
  | '.' :: c :: rest => if c.isDigit then some (rest.dropWhile Char.isDigit) else none
  | ['.'] => none
  | cs => some cs

/-- Two digits, the first no greater than a bound, and what follows them. -/
def takePair? (bound : Char) : List Char → Option (Nat × List Char)
  | a :: b :: rest =>
    if a.isDigit && b.isDigit && a ≤ bound then some (Text.natOfDigits [a, b], rest) else none
  | _ => none

/-- What follows an offset of hours and minutes, less than a day. -/
def dropOffset? (cs : List Char) : Option (List Char) := do
  let (hours, cs) ← takePair? '9' cs
  let (_, cs) ← takePair? '5' (cs.dropWhile fun c => c == ':' || Text.isBlank c)
  if hours < 24 then some cs else none

/-- Whether a text is `UTC` in capital or small letters. -/
def isUTC (cs : List Char) : Bool := cs.map Char.toUpper == ['U', 'T', 'C']

def dropZone? (cs : List Char) : Option (List Char) :=
  if isUTC (cs.take 3) then some (cs.drop 3)
  else match cs with
    | 'Z' :: rest => some rest
    | 'z' :: rest => some rest
    | '+' :: rest => dropOffset? rest
    | '-' :: rest => dropOffset? rest
    | '\u2212' :: rest => dropOffset? rest
    | _ => none

/-- What follows a point in time. -/
def drop? (cs : List Char) : Option (List Char) := do
  let (year, cs) ← takeYear? cs
  let (month, cs) ← takeNumber? 2 (← dropSeparator? '-' cs)
  let (day, cs) ← takeNumber? 2 (← dropSeparator? '-' cs)
  guard (isDate year month day)
  let cs ← match cs with
    | 't' :: rest => some rest
    | 'T' :: rest => some rest
    | ' ' :: rest => some rest
    | _ => none
  let (hour, cs) ← takeNumber? 2 cs
  let (minute, cs) ← takeNumber? 2 (← dropSeparator? ':' cs)
  let (second, cs) ← takeNumber? 2 (← dropSeparator? ':' cs)
  guard (hour < 24 && minute < 60 && second ≤ 60)
  dropZone? (skipBlanks (← dropFraction? cs))

/-- Whether a text is a point in time, blanks behind it allowed. -/
def isValid (s : String) : Bool :=
  match drop? s.toList with
  | some rest => (skipBlanks rest).isEmpty
  | none => false

end NodeFit.Cluster.Timestamp
