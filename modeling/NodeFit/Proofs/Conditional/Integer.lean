import NodeFit.Proofs.Conditional
import NodeFit.Proofs.Quantity.Literal

/-!
# NodeFit.Proofs.Conditional.Integer

Integers as literals of conditionals.

A literal that can be read as an integer of 64 bits is kept as the integer, and written anew
when an amount is compared with it.  Neither loses anything: the spelling that stood in the text
and the digits of the integer are quantities of the same amount, so that the comparison has an
order, and the same one as with the spelling (`compareLiteral_integer`).

An integer may be spelled with a plus sign and with any number of zeros in front.  As a quantity
its digits are multiplied out without regard to their number, so that zeros in front add nothing,
and 64 bits of whole units stay far below the range of amounts: no spelling is refused
(`Quantity.exists_parse_of_spells`).
-/

namespace NodeFit

variable {n : Int}

/-- A literal is an integer exactly for the spellings of integers of 64 bits. -/
theorem Literal.ofToken_eq_integer_iff_spells {token : List Char} :
    ofToken token = .integer n ↔
      Text.Spells n token ∧ -9223372036854775808 ≤ n ∧ n ≤ 9223372036854775807 := by
  rw [ofToken_eq_integer_iff, Text.readSigned?_eq_some_iff, Text.readInt?_eq_some_iff_spells,
    Text.fitsSigned_int64]

/-- Every spelling of an integer of 64 bits is the quantity of as many whole units. -/
theorem Quantity.exists_parse_of_spells {token : String} (h : Text.Spells n token.toList)
    (hfits : Text.fitsSigned 64 n = true) :
    ∃ q : Quantity, parse token = .ok q ∧ q.nano = n * 10 ^ 9 := by
  have hread := Text.readInt?_eq_some_iff_spells.2 h
  rw [← String.ofList_toList (s := token)]
  exact exists_parse_of_readInt? hread hfits

namespace Conditional

/-- An amount is compared with the number of units that an integer literal is. -/
theorem compareLiteral_of_parse {c : Conditional} (hliteral : c.literal = .integer n)
    {written : Quantity} (hwritten : Quantity.parse (Text.decimal n) = .ok written)
    (q : Quantity) : c.compareLiteral (.quantity q) = .ok (q.compare written) := by
  simp only [compareLiteral, compareAmount, hliteral, Literal.text, hwritten]

/-- **Integer literals lose nothing.**  A literal is an integer for every spelling of an integer
of 64 bits, with a sign of either kind and any number of leading zeros, and for nothing else.
The spelling and the digits of the integer are both read, as quantities of exactly as many whole
units, and comparing an amount with the literal gives its order to the spelling. -/
theorem compareLiteral_integer (token : String) (n : Int) :
    (Literal.ofToken token.toList = .integer n ↔
      Text.Spells n token.toList ∧ -9223372036854775808 ≤ n ∧ n ≤ 9223372036854775807) ∧
    (Literal.ofToken token.toList = .integer n →
      ∃ written read : Quantity,
        Quantity.parse (Text.decimal n) = .ok written ∧ written.nano = n * 10 ^ 9 ∧
        Quantity.parse token = .ok read ∧ read.nano = n * 10 ^ 9 ∧
        ∀ (c : Conditional) (q : Quantity), c.literal = .integer n →
          c.compareLiteral (.quantity q) = .ok (q.compare read) ∧
          q.compare read = Ord.compare q.nano (n * 10 ^ 9)) := by
  refine ⟨Literal.ofToken_eq_integer_iff_spells, fun h => ?_⟩
  obtain ⟨hspells, hrange⟩ := Literal.ofToken_eq_integer_iff_spells.1 h
  have hfits := Text.fitsSigned_int64.2 hrange
  have hdigits : Text.Spells n (Text.decimal n).toList := by
    rw [Text.toList_decimal]
    exact Text.readInt?_eq_some_iff_spells.1 (Text.readInt?_intDigits n)
  obtain ⟨written, hwritten, hnano⟩ := Quantity.exists_parse_of_spells hdigits hfits
  obtain ⟨read, hread, hnano'⟩ := Quantity.exists_parse_of_spells hspells hfits
  refine ⟨written, read, hwritten, hnano, hread, hnano', fun c q hliteral => ⟨?_, ?_⟩⟩
  · have hsame : q.compare written = q.compare read := by
      rw [Quantity.compare, Quantity.compare, hnano, hnano']
    rw [compareLiteral_of_parse hliteral hwritten, hsame]
  · rw [Quantity.compare, hnano']

/-- The least integer of 64 bits behind zeros, and an amount that is one nano-unit above it. -/
theorem compareLiteral_integer_least :
    Literal.ofToken "-0009223372036854775808".toList = .integer (-9223372036854775808) ∧
    (∃ read : Quantity, Quantity.parse "-0009223372036854775808" = .ok read ∧
      read.nano = -9223372036854775808000000000) ∧
    Conditional.compareLiteral ⟨"min", "cpuCapacity", .greater, .integer (-9223372036854775808)⟩
      (.quantity (.clamp (-9223372036854775807999999999) .decimalSI)) = .ok .gt := by
  have h : Literal.ofToken "-0009223372036854775808".toList = .integer (-9223372036854775808) := by
    decide +kernel
  obtain ⟨written, read, -, -, hread, hnano, hcompare⟩ := (compareLiteral_integer _ _).2 h
  obtain ⟨horder, hamount⟩ := hcompare
    ⟨"min", "cpuCapacity", .greater, .integer (-9223372036854775808)⟩
    (.clamp (-9223372036854775807999999999) .decimalSI) rfl
  refine ⟨h, ⟨read, hread, by rw [hnano]; rfl⟩, ?_⟩
  rw [horder, hamount]
  decide +kernel

end Conditional
end NodeFit
