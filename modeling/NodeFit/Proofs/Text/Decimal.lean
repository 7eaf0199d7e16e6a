import NodeFit.Proofs.Text.Words
import NodeFit.Text.Decimal

/-!
# NodeFit.Proofs.Text.Decimal

Reading undoes writing.

Written numbers are non-empty strings of decimal digits, so that they are taken
for numerals and never for signs, and the number that their digits denote is the
one that was written.  More than what is written is read: zeros may stand in front of
the digits, and a sign in front of all (`readInt?_eq_some_iff_spells`).

`Sign` is the sign as it stands in a text, a plus, a minus or none, and `Spells` relates an
integer to all its spellings.  Zero has both signs.  What is said of integers of any size goes
for those of a width, which are read in the same way if they fit (`readSigned?_eq_some_iff`).
-/

namespace NodeFit.Text

/-! ## Digits -/

theorem natDigits_ne_nil (n : Nat) : natDigits n ≠ [] := Nat.toDigits_ne_nil

theorem isDigit_of_mem_natDigits {n : Nat} {c : Char} (h : c ∈ natDigits n) : c.isDigit :=
  Nat.isDigit_of_mem_toDigits (by decide) (by decide) h

@[simp] theorem natOfDigits_natDigits (n : Nat) : natOfDigits (natDigits n) = n :=
  Nat.ofDigitChars_ten_toDigits

/-- A numeral is one or more decimal digits. -/
theorem isNumeral_iff {cs : List Char} :
    isNumeral cs = true ↔ cs ≠ [] ∧ ∀ c ∈ cs, c.isDigit = true := by
  simp [isNumeral]

theorem isNumeral_natDigits (n : Nat) : isNumeral (natDigits n) = true :=
  isNumeral_iff.2 ⟨natDigits_ne_nil n, fun _ => isDigit_of_mem_natDigits⟩

/-- A decimal digit is the character of a number below ten. -/
theorem exists_digitChar_of_isDigit {c : Char} (h : c.isDigit = true) :
    ∃ d < 10, c = Nat.digitChar d := by
  obtain ⟨lower, upper⟩ : 48 ≤ c.toNat ∧ c.toNat ≤ 57 := Char.isDigit_iff_toNat.1 h
  refine ⟨c.toNat - 48, by omega, Char.toNat_inj.1 ?_⟩
  rw [Nat.toNat_digitChar_of_lt_ten (by omega)]
  omega

/-- Digits behind those of a number that is not zero are digits of a larger one. -/
theorem natDigits_ofDigitChars {n : Nat} {digits : List Char} (hn : 0 < n)
    (h : ∀ c ∈ digits, c.isDigit = true) :
    natDigits (Nat.ofDigitChars 10 digits n) = natDigits n ++ digits := by
  induction digits generalizing n with
  | nil => simp
  | cons c rest ih =>
      obtain ⟨d, hd, rfl⟩ := exists_digitChar_of_isDigit (h c List.mem_cons_self)
      have hdigit : natDigits (10 * n + d) = natDigits n ++ [Nat.digitChar d] := by
        rw [natDigits, ← Nat.toDigits_append_toDigits (by decide) hn hd,
          Nat.toDigits_of_lt_base hd]
        rfl
      rw [Nat.ofDigitChars_cons_digitChar_of_lt_ten hd,
        ih (by omega) fun c hc => h c (List.mem_cons_of_mem _ hc), hdigit]
      simp

/-- **A digit string is zeros and the digits of its number.** -/
theorem exists_zeros_of_isNumeral {digits : List Char} (h : isNumeral digits = true) :
    ∃ zeros, digits = List.replicate zeros '0' ++ natDigits (natOfDigits digits) := by
  obtain ⟨hne, hall⟩ := isNumeral_iff.1 h
  induction digits with
  | nil => contradiction
  | cons c rest ih =>
      have hrest : ∀ c ∈ rest, c.isDigit = true := fun c hc => hall c (List.mem_cons_of_mem _ hc)
      obtain ⟨d, hd, rfl⟩ := exists_digitChar_of_isDigit (hall c List.mem_cons_self)
      have hvalue : natOfDigits (Nat.digitChar d :: rest) = Nat.ofDigitChars 10 rest d := by
        rw [natOfDigits, Nat.ofDigitChars_cons_digitChar_of_lt_ten hd, Nat.mul_zero, Nat.zero_add]
      rcases Nat.eq_zero_or_pos d with rfl | hpos
      · -- One more zero, unless it is the only digit.
        by_cases hnil : rest = []
        · subst hnil
          exact ⟨0, rfl⟩
        · obtain ⟨zeros, hzeros⟩ := ih (isNumeral_iff.2 ⟨hnil, hrest⟩) hnil hrest
          refine ⟨zeros + 1, ?_⟩
          rw [hvalue]
          exact congrArg ('0' :: ·) hzeros
      · refine ⟨0, ?_⟩
        rw [hvalue, natDigits_ofDigitChars hpos hrest, natDigits, Nat.toDigits_of_lt_base hd]
        rfl

/-! ## Signs -/

/-- The sign that a number is written with. -/
inductive Sign where
  | none
  | plus
  | minus
deriving DecidableEq, Repr

namespace Sign

/-- The characters of a sign. -/
def chars : Sign → List Char
  | none => []
  | plus => ['+']
  | minus => ['-']

/-- Whether a sign turns a number around. -/
def isMinus : Sign → Bool
  | minus => true
  | _ => false

/-- The number with a sign put in front. -/
def apply (sign : Sign) (i : Int) : Int := if sign.isMinus then -i else i

/-- The sign that a number is written with when no plus is wanted. -/
def ofInt (i : Int) : Sign := if i < 0 then minus else none

theorem chars_injective {sign sign' : Sign} (h : sign.chars = sign'.chars) : sign = sign' := by
  cases sign <;> cases sign' <;> simp_all [chars]

/-- An integer is its absolute value with its sign. -/
theorem apply_natAbs (i : Int) : (ofInt i).apply i.natAbs = i := by
  unfold ofInt
  split
  · change -(i.natAbs : Int) = i
    omega
  · change (i.natAbs : Int) = i
    omega

end Sign

theorem Sign.not_isBlank (sign : Sign) : ∀ c ∈ sign.chars, isBlank c = false := by
  refine not_isBlank_of_any ?_
  cases sign <;> decide

/-- Whether a character is one of the two signs. -/
def IsSign (c : Char) : Prop := c = '-' ∨ c = '+'

theorem not_isSign_of_isDigit {c : Char} (h : c.isDigit = true) : ¬IsSign c := by
  intro h
  obtain rfl | rfl := h <;> exact absurd h (by decide)

/-- A sign is taken off a text whose next character is none. -/
theorem takeSign_chars_append (sign : Sign) {c : Char} (cs : List Char) (h : ¬IsSign c) :
    takeSign (sign.chars ++ c :: cs) = (sign.isMinus, c :: cs) := by
  obtain ⟨minus, plus⟩ := not_or.1 h
  cases sign with
  | plus => rfl
  | minus => rfl
  | none =>
      change takeSign (c :: cs) = (false, c :: cs)
      unfold takeSign
      split
      · next e => exact absurd (List.cons.inj e).1 minus
      · next e => exact absurd (List.cons.inj e).1 plus
      · rfl

/-- A sign is taken off a text, and no sign off a text that does not start with one. -/
theorem takeSign_append {sign : Sign} {rest : List Char}
    (h : sign = .none → ∀ c ∈ rest.head?, ¬IsSign c) :
    takeSign (sign.chars ++ rest) = (sign.isMinus, rest) := by
  cases sign with
  | plus => rfl
  | minus => rfl
  | none =>
      cases rest with
      | nil => rfl
      | cons c cs => exact takeSign_chars_append .none cs (h rfl c rfl)

/-- A text starts with the sign that is taken off it, or with no sign at all. -/
theorem exists_sign (cs : List Char) :
    ∃ (sign : Sign) (rest : List Char), cs = sign.chars ++ rest ∧
      (sign = .none → ∀ c ∈ rest.head?, ¬IsSign c) := by
  rcases cs with _ | ⟨c, rest⟩
  · exact ⟨.none, [], rfl, by simp⟩
  · by_cases hminus : c = '-'
    · exact ⟨.minus, rest, by rw [hminus]; rfl, by simp⟩
    · by_cases hplus : c = '+'
      · exact ⟨.plus, rest, by rw [hplus]; rfl, by simp⟩
      · exact ⟨.none, c :: rest, rfl, by simpa [IsSign] using ⟨hminus, hplus⟩⟩

/-- A sign is taken off a numeral. -/
theorem takeSign_of_isNumeral (sign : Sign) {cs : List Char} (h : isNumeral cs = true) :
    takeSign (sign.chars ++ cs) = (sign.isMinus, cs) := by
  obtain ⟨ne, digits⟩ := isNumeral_iff.1 h
  obtain ⟨c, rest, rfl⟩ := List.exists_cons_of_ne_nil ne
  exact takeSign_chars_append sign rest (not_isSign_of_isDigit (digits c List.mem_cons_self))

/-! ## Integers -/

/-- **Integers are read from a sign and digits**, and from nothing else. -/
theorem readInt?_eq_some_iff {cs : List Char} {i : Int} :
    readInt? cs = some i ↔ ∃ (sign : Sign) (digits : List Char),
      cs = sign.chars ++ digits ∧ isNumeral digits = true ∧
      i = sign.apply (natOfDigits digits) := by
  constructor
  · intro h
    obtain ⟨sign, digits, rfl, hhead⟩ := exists_sign cs
    simp only [readInt?, takeSign_append hhead] at h
    split at h
    · next hn => exact ⟨sign, digits, rfl, hn, (Option.some.inj h).symm⟩
    · contradiction
  · intro h
    obtain ⟨sign, digits, rfl, hn, rfl⟩ := h
    simp only [readInt?, takeSign_of_isNumeral sign hn, hn, if_true]
    rfl

theorem Sign.natAbs_apply (sign : Sign) (n : Nat) : (sign.apply n).natAbs = n := by
  unfold Sign.apply
  split <;> omega

/-- The spellings of an integer: its digits, behind any number of zeros and a sign that goes
with it.  Zero goes with either sign. -/
def Spells (i : Int) (cs : List Char) : Prop :=
  ∃ (sign : Sign) (zeros : Nat), sign.apply i.natAbs = i ∧
    cs = sign.chars ++ (List.replicate zeros '0' ++ natDigits i.natAbs)

/-- **Every spelling of an integer is read**, and nothing else. -/
theorem readInt?_eq_some_iff_spells {cs : List Char} {i : Int} :
    readInt? cs = some i ↔ Spells i cs := by
  rw [readInt?_eq_some_iff]
  constructor
  · rintro ⟨sign, digits, rfl, hdigits, rfl⟩
    obtain ⟨zeros, hzeros⟩ := exists_zeros_of_isNumeral hdigits
    refine ⟨sign, zeros, ?_, ?_⟩
    · rw [sign.natAbs_apply]
    · rw [sign.natAbs_apply, ← hzeros]
  · rintro ⟨sign, zeros, hsign, rfl⟩
    refine ⟨sign, _, rfl, isNumeral_iff.2 ⟨?_, fun c hc => ?_⟩, ?_⟩
    · simp [natDigits_ne_nil]
    · rcases List.mem_append.1 hc with hc | hc
      · rw [List.eq_of_mem_replicate hc]
        rfl
      · exact isDigit_of_mem_natDigits hc
    · rw [natOfDigits, Nat.ofDigitChars_append, Nat.ofDigitChars_replicate_zero, Nat.mul_zero]
      change i = sign.apply (natOfDigits (natDigits i.natAbs))
      rw [natOfDigits_natDigits, hsign]

/-- The integers of 32 bits. -/
theorem fitsSigned_int32 {i : Int} :
    fitsSigned 32 i = true ↔ -2147483648 ≤ i ∧ i ≤ 2147483647 := by
  have hpow : Nat.pow 2 (32 - 1) = 2147483648 := rfl
  rw [fitsSigned_iff, hpow]
  omega

/-- The integers of 64 bits. -/
theorem fitsSigned_int64 {i : Int} :
    fitsSigned 64 i = true ↔ -9223372036854775808 ≤ i ∧ i ≤ 9223372036854775807 := by
  have hpow : Nat.pow 2 (64 - 1) = 9223372036854775808 := rfl
  rw [fitsSigned_iff, hpow]
  omega

/-- Integers of a width are read the same way. -/
theorem readSigned?_eq_some_iff {bits : Nat} {cs : List Char} {i : Int} :
    readSigned? bits cs = some i ↔ readInt? cs = some i ∧ fitsSigned bits i = true := by
  rw [readSigned?, Option.filter_eq_some_iff]

/-- A written integer is its sign and the digits of its absolute value. -/
theorem intDigits_eq (i : Int) : intDigits i = (Sign.ofInt i).chars ++ natDigits i.natAbs := by
  unfold intDigits Sign.ofInt
  split <;> rfl

/-- **Written integers read back.** -/
theorem readInt?_intDigits (i : Int) : readInt? (intDigits i) = some i := by
  rw [readInt?_eq_some_iff]
  refine ⟨Sign.ofInt i, natDigits i.natAbs, intDigits_eq i, isNumeral_natDigits _, ?_⟩
  rw [natOfDigits_natDigits, Sign.apply_natAbs]

/-- Written integers of a width read back as integers of that width. -/
theorem readSigned?_intDigits {bits : Nat} {i : Int} (h : fitsSigned bits i = true) :
    readSigned? bits (intDigits i) = some i :=
  readSigned?_eq_some_iff.2 ⟨readInt?_intDigits i, h⟩

theorem toList_decimal (i : Int) : (decimal i).toList = intDigits i := String.toList_ofList

/-- A written integer is one word. -/
theorem isWord_intDigits (i : Int) : IsWord (intDigits i) := by
  rw [intDigits_eq]
  constructor
  · simp [natDigits_ne_nil]
  · intro c hc
    rcases List.mem_append.1 hc with hc | hc
    · exact (Sign.ofInt i).not_isBlank c hc
    · exact isBlank_of_isDigit (isDigit_of_mem_natDigits hc)

end NodeFit.Text
