import NodeFit.Conditional
import NodeFit.Proofs.Quantity.RoundTrip

/-!
# NodeFit.Proofs.Quantity.Literal

Quantities as the literals of conditionals.

A text that reads as a quantity is one word, so that it can stand in a conditional.  As a
literal it may be taken for an integer and written anew, but the quantity that it is read
as in the end has the same amount (`exists_parse_literal`): integers of 64 bits, in
whatever way they are spelled, are whole units in range (`exists_parse_of_readInt?`).
-/

namespace NodeFit.Quantity

open Text (Sign)

/-! ## Words -/

/-- A numeral has no blank in it. -/
theorem Written.isBlank_numeral (w : Written) {c : Char} (h : c ∈ w.numeral) :
    Text.isBlank c = false := by
  have hc := w.isNumeralChar_of_mem_numeral h
  simp only [isNumeralChar, Bool.or_eq_true, beq_iff_eq] at hc
  rcases hc with hc | rfl
  · exact Text.isBlank_of_isDigit hc
  · rfl

/-- **What reads as a quantity is one word.** -/
theorem isWord_of_parse {s : String} {q : Quantity} (h : parse s = .ok q) :
    Text.IsWord s.toList := by
  obtain ⟨w, hw⟩ := exists_written_of_parse h
  have hs : s = String.ofList w.chars := by rw [hw, String.ofList_toList]
  obtain ⟨scale, -, hscale, -⟩ := exists_scale_of_parse (hs ▸ h)
  have hsuffix := (Scale.names_of_ofSuffix? hscale).not_isBlank
  rw [← hw]
  constructor
  · simp [Written.chars, w.numeral_ne_nil]
  · intro c hc
    simp only [Written.chars, List.mem_append] at hc
    rcases hc with hc | hc | hc
    · exact w.sign.not_isBlank c hc
    · exact w.isBlank_numeral hc
    · exact hsuffix c hc

/-! ## Integers -/

theorem Written.isDigit_of_mem_none :
    ∀ c ∈ (none : Option (List Char)).getD [], c.isDigit = true := by
  simp

/-- An integer as a written quantity, with its digits as they are. -/
def Written.ofDigits (sign : Sign) (digits : List Char) (h : Text.isNumeral digits = true) :
    Written where
  sign
  whole := digits
  fraction := none
  suffix := []
  isDigit_of_mem_whole := (Text.isNumeral_iff.1 h).2
  isDigit_of_mem_fraction := Written.isDigit_of_mem_none
  digits_ne_nil hn := (Text.isNumeral_iff.1 h).1 (List.append_eq_nil_iff.1 hn).1
  suffix_head _ h := nomatch h

/-- **Integers of 64 bits are whole units**, with a sign of either kind and any number of
leading zeros. -/
theorem exists_parse_of_readInt? {cs : List Char} {i : Int} (h : Text.readInt? cs = some i)
    (hfits : Text.fitsSigned 64 i = true) :
    ∃ q : Quantity, parse (String.ofList cs) = .ok q ∧ q.nano = i * 10 ^ 9 := by
  obtain ⟨sign, digits, rfl, hdigits, rfl⟩ := Text.readInt?_eq_some_iff.1 h
  generalize hn : Text.natOfDigits digits = n at hfits
  have hrange : n * 10 ^ 9 < limit := by
    have hpow : Nat.pow 2 (64 - 1) = 9223372036854775808 := rfl
    have hlimit : limit = 170141183460469231731687303715884105728 := rfl
    rw [Text.fitsSigned_iff, Sign.apply, hpow] at hfits
    rw [hlimit]
    split at hfits <;> omega
  have hexact : (Scale.decimal 0).Exact n (n * 10 ^ 9) := ⟨9, rfl, by decide, rfl⟩
  have hmantissa : (Written.ofDigits sign digits hdigits).mantissa = n := by
    change Text.natOfDigits (digits ++ []) = n
    rw [List.append_nil, hn]
  have hchars : (Written.ofDigits sign digits hdigits).chars = sign.chars ++ digits := by
    change sign.chars ++ ((digits ++ []) ++ []) = _
    simp
  have hmagnitude : magnitude? .wrapped n 0 (.decimal 0) = some ((n * 10 ^ 9 : Nat) : Int) :=
    hexact.magnitude?_eq Scale.names_none hrange
  rw [← hmantissa] at hmagnitude
  have hparse := parse_ofList_chars_eq_ok (Scale.ofSuffix?_of_names Scale.names_none) hmagnitude
  rw [hchars] at hparse
  refine ⟨_, hparse, ?_⟩
  rw [hmantissa]
  refine (ofMagnitude_nano (Int.natCast_nonneg _) (Int.ofNat_lt.2 hrange)).trans ?_
  change sign.apply _ = _
  rw [Sign.apply, Sign.apply]
  split <;> omega

/-- **A quantity keeps its amount as a literal.**  Where the literal is an integer, its text
is another one, but reads as the same amount. -/
theorem exists_parse_literal {s : String} {q : Quantity} (h : parse s = .ok q) :
    ∃ r : Quantity, parse (Literal.ofToken s.toList).text = .ok r ∧ r.nano = q.nano := by
  unfold Literal.ofToken
  split
  · next n hn =>
    obtain ⟨hread, hfits⟩ := Text.readSigned?_eq_some_iff.1 hn
    obtain ⟨q', hq', hnano⟩ := exists_parse_of_readInt? hread hfits
    obtain ⟨r, hr, hrnano⟩ := exists_parse_of_readInt? (Text.readInt?_intDigits n) hfits
    rw [String.ofList_toList, h] at hq'
    cases hq'
    exact ⟨r, hr, hrnano.trans hnano.symm⟩
  · exact ⟨q, by rw [Literal.text, String.ofList_toList, h], rfl⟩

end NodeFit.Quantity
