/-!
# NodeFit.Text.Blank

Blank characters and the words between them.

A character is blank when it has the Unicode property White_Space.  `words`
cuts a text at its blanks and keeps the non-empty pieces, so that spacing
before, between and after words never matters.
-/

namespace NodeFit.Text

/-- The characters of the Unicode property White_Space. -/
def isBlank (c : Char) : Bool :=
  let n := c.toNat
  (9 ≤ n && n ≤ 13) || n == 0x20 || n == 0x85 || n == 0xA0 || n == 0x1680
    || (0x2000 ≤ n && n ≤ 0x200A) || n == 0x2028 || n == 0x2029 || n == 0x202F
    || n == 0x205F || n == 0x3000

/-- The maximal runs of characters that are not blank, in order. -/
def words (cs : List Char) : List (List Char) :=
  (cs.splitOnP isBlank).filter fun word => !word.isEmpty

end NodeFit.Text
