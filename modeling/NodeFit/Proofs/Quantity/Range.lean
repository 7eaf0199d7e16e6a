import NodeFit.Proofs.Quantity.Value

/-!
# NodeFit.Proofs.Quantity.Range

Which written quantities are out of range.

An amount that does not fit is out of range, and so is one that fits but has a step on the
way that does not (`parse_outOfRange_iff`).  The amount alone decides about sharp numerals,
which divide nothing and have no exponent for nothing.

Two kinds of text are refused although their amounts fit: a zero with an exponent so large that
its power of ten has no 128 bits, and a numeral with so many places that the digits without
the point do not fit (`parse_outOfRange_of_fits`).  `Scale.StepsFit` says what the steps take on
top of the amount, and `Scale.Sharp` when they take nothing.
-/

namespace NodeFit.Quantity

/-! ## Steps -/

/-- What the steps of scaling take, apart from an amount that fits. -/
def Scale.StepsFit (mantissa places : Nat) : Scale → Prop
  | .binary power => places < 2 ^ 31 ∧ mantissa * 2 ^ power * 10 ^ 9 < limit
  | .decimal power | .exponent power =>
    places < 2 ^ 31 ∧ mantissa < limit ∧ -(2 ^ 31) ≤ power + 9 ∧ power + 9 < 2 ^ 31 ∧
      -(2 ^ 31) < power + 9 - places ∧ power + 9 - places ≤ maxPower

/-- No digit is finer than a nano-unit, and zero has no exponent that no amount has.  In the
binary family, where all digits are scaled before the places are divided away, there are no
places at all. -/
def Scale.Sharp (mantissa places : Nat) : Scale → Prop
  | .binary _ => places = 0
  | .decimal power | .exponent power =>
    (places : Int) ≤ power + 9 ∧ power + 9 < 2 ^ 31 ∧
      (mantissa ≠ 0 ∨ power + 9 - places ≤ maxPower)

section

variable {mantissa places : Nat} {power : Int}

/-- Where nothing is divided, the amount is the product. -/
theorem ceil_value_of_le (h : (places : Int) ≤ power + 9) :
    ⌈(mantissa : ℚ) * 10 ^ (-(places : ℤ)) * 10 ^ power * 10 ^ 9⌉ =
      (mantissa * 10 ^ (power + 9 - places).toNat : Nat) := by
  have hshift : power + 9 - places = ((power + 9 - places).toNat : ℤ) := by omega
  rw [value_decimal, hshift, ceil_mul_pow, Int.toNat_natCast]

theorem ceil_value_binary (shift : Nat) :
    ⌈(mantissa : ℚ) * 10 ^ (-((0 : Nat) : ℤ)) * 2 ^ shift * 10 ^ 9⌉ =
      (mantissa * 2 ^ shift * 10 ^ 9 : Nat) := by
  have hzero : -((0 : Nat) : ℤ) = ((0 : Nat) : ℤ) := rfl
  rw [value_binary, hzero, ceil_mul_pow, Nat.pow_zero, Nat.mul_one]

/-- The range of a decimal numeral is that of its amount and of the steps to it. -/
theorem inRange_decimal_iff :
    (Scale.decimal power).InRange mantissa places ↔
      ⌈(mantissa : ℚ) * 10 ^ (-(places : ℤ)) * 10 ^ power * 10 ^ 9⌉ < limit ∧
      (Scale.decimal power).StepsFit mantissa places := by
  constructor
  · intro h
    obtain ⟨hplaces, hlower, hupper, hshift, hshift', hproduct⟩ := id h
    exact ⟨h.ceil_lt, hplaces, lt_limit_of_mul_pow hproduct, hlower, hupper, hshift, hshift'⟩
  · intro ⟨hamount, hplaces, hmantissa, hlower, hupper, hshift, hshift'⟩
    refine ⟨hplaces, hlower, hupper, hshift, hshift', ?_⟩
    -- The product is the amount, except where a division follows it: it is the mantissa then.
    by_cases hle : (places : Int) ≤ power + 9
    · rwa [ceil_value_of_le hle, Int.ofNat_lt] at hamount
    · have hzero : (power + 9 - places).toNat = 0 := by omega
      rwa [hzero, Nat.pow_zero, Nat.mul_one]

/-- The steps of a sharp numeral fit if its amount does. -/
theorem stepsFit_decimal (h : (Scale.decimal power).Sharp mantissa places)
    (hamount : ⌈(mantissa : ℚ) * 10 ^ (-(places : ℤ)) * 10 ^ power * 10 ^ 9⌉ < limit) :
    (Scale.decimal power).StepsFit mantissa places := by
  obtain ⟨hle, hupper, hzero⟩ := h
  rw [ceil_value_of_le hle, Int.ofNat_lt] at hamount
  have hshift : power + 9 - places ≤ maxPower := by
    obtain hne | hshift := hzero
    · have := le_maxPower (Nat.pos_of_ne_zero hne) hamount
      omega
    · exact hshift
  exact ⟨by omega, lt_limit_of_mul_pow hamount, by omega, hupper, by omega, hshift⟩

end

namespace Scale

variable {scale : Scale} {mantissa places : Nat}

/-- A numeral is in range if its amount fits and the steps to it do. -/
theorem inRange_iff :
    scale.InRange mantissa places ↔
      ⌈(mantissa : ℚ) * 10 ^ (-(places : ℤ)) * scale.factor * 10 ^ 9⌉ < limit ∧
      scale.StepsFit mantissa places := by
  cases scale with
  | binary power => exact ⟨fun h => ⟨h.ceil_lt, h⟩, fun h => h.2⟩
  | decimal power => exact inRange_decimal_iff
  | exponent power => exact inRange_decimal_iff

/-- The steps of a sharp numeral fit if its amount does, in every family. -/
theorem Sharp.stepsFit (h : scale.Sharp mantissa places)
    (hamount : ⌈(mantissa : ℚ) * 10 ^ (-(places : ℤ)) * scale.factor * 10 ^ 9⌉ < limit) :
    scale.StepsFit mantissa places := by
  cases scale with
  | binary power =>
      obtain rfl : places = 0 := h
      rw [factor, ceil_value_binary, Int.ofNat_lt] at hamount
      exact ⟨by decide, hamount⟩
  | decimal power => exact stepsFit_decimal h hamount
  | exponent power => exact stepsFit_decimal h hamount

end Scale

/-! ## Parsing -/

/-- A written quantity in range is read as its amount with its sign. -/
theorem parse_of_inRange {w : Written} {scale : Scale} (hscale : scale.Names w.suffix)
    (h : scale.InRange w.mantissa w.places) :
    ∃ q : Quantity, parse (String.ofList w.chars) = .ok q ∧
      q.nano = w.sign.apply ⌈w.value scale * 10 ^ 9⌉ :=
  ⟨_, parse_ofList_chars_eq_ok (Scale.ofSuffix?_of_names hscale)
    ((magnitude?_eq_some_iff hscale).2 ⟨h, rfl⟩),
    ofMagnitude_nano (ceil_value_nonneg scale w.mantissa w.places) h.ceil_lt⟩

/-- A written quantity is out of range if it is not in range. -/
theorem parse_of_not_inRange {w : Written} {scale : Scale} (hscale : scale.Names w.suffix)
    (h : ¬ scale.InRange w.mantissa w.places) :
    parse (String.ofList w.chars) = .error (.outOfRange (String.ofList w.chars)) := by
  refine parse_ofList_chars_eq_outOfRange (Scale.ofSuffix?_of_names hscale) ?_
  rw [Option.eq_none_iff_forall_ne_some]
  exact fun m hm => h ((magnitude?_eq_some_iff hscale).1 hm).1

/-- **A written quantity is out of range** if its amount does not fit, or one of the steps to
it, and is read as its amount otherwise.  About a sharp numeral the amount alone decides. -/
theorem parse_outOfRange_iff (w : Written) (scale : Scale) (hscale : scale.Names w.suffix) :
    let text := String.ofList w.chars
    let amount := ⌈w.value scale * 10 ^ 9⌉
    (parse text = .error (.outOfRange text) ↔
      limit ≤ amount ∨ ¬ scale.StepsFit w.mantissa w.places) ∧
    (amount < limit → scale.StepsFit w.mantissa w.places →
      ∃ q : Quantity, parse text = .ok q ∧ q.nano = w.sign.apply amount) ∧
    (scale.Sharp w.mantissa w.places →
      (parse text = .error (.outOfRange text) ↔ limit ≤ amount)) := by
  intro text amount
  have hiff : parse text = .error (.outOfRange text) ↔
      limit ≤ amount ∨ ¬ scale.StepsFit w.mantissa w.places := by
    rw [← Int.not_lt, ← Classical.not_and_iff_not_or_not]
    constructor
    · intro herror h
      obtain ⟨q, hq, -⟩ := parse_of_inRange hscale (Scale.inRange_iff.2 h)
      rw [hq] at herror
      contradiction
    · exact fun h => parse_of_not_inRange hscale fun hrange => h (Scale.inRange_iff.1 hrange)
  refine ⟨hiff, fun hamount hsteps => ?_, fun hsharp => ?_⟩
  · exact parse_of_inRange hscale (Scale.inRange_iff.2 ⟨hamount, hsteps⟩)
  · rw [hiff, ← Int.not_lt, or_iff_left_of_imp]
    exact fun hsteps hamount => hsteps (hsharp.stepsFit hamount)

/-- The greatest amount that there is fits in full, whatever its sign. -/
theorem parse_outOfRange_iff_greatest :
    ∃ w : Written, w.chars = "-170141183460469231731687303715.884105727".toList ∧
      (Scale.decimal 0).Names w.suffix ∧ (Scale.decimal 0).Sharp w.mantissa w.places ∧
      ⌈w.value (.decimal 0) * 10 ^ 9⌉ = limit - 1 ∧
      parse (String.ofList w.chars) ≠ .error (.outOfRange (String.ofList w.chars)) := by
  let w : Written :=
    { sign := .minus
      whole := "170141183460469231731687303715".toList
      fraction := some "884105727".toList
      suffix := []
      isDigit_of_mem_whole := List.all_eq_true.1 rfl
      isDigit_of_mem_fraction := List.all_eq_true.1 rfl
      digits_ne_nil := by decide
      suffix_head := by simp }
  have hsharp : (Scale.decimal 0).Sharp w.mantissa w.places :=
    ⟨by decide, by decide, .inr (by decide)⟩
  have hamount : ⌈w.value (.decimal 0) * 10 ^ 9⌉ = limit - 1 := by
    refine (ceil_value_of_le hsharp.1).trans ?_
    decide +kernel
  refine ⟨w, by decide, Scale.names_none, hsharp, hamount, ?_⟩
  rw [ne_eq, (parse_outOfRange_iff w (.decimal 0) Scale.names_none).2.2 hsharp, hamount]
  omega

/-- Zero, and one as well, are out of range in some forms: the amount fits, and a step on the
way to it does not. -/
theorem parse_outOfRange_of_fits :
    (∃ (w : Written) (scale : Scale), w.chars = "0e40".toList ∧ scale.Names w.suffix ∧
      ⌈w.value scale * 10 ^ 9⌉ = 0 ∧ parse "0e40" = .error (.outOfRange "0e40")) ∧
    ∃ (w : Written) (scale : Scale),
      w.chars = "1.000000000000000000000000000000000000000".toList ∧ scale.Names w.suffix ∧
      ⌈w.value scale * 10 ^ 9⌉ = 10 ^ 9 ∧
      parse "1.000000000000000000000000000000000000000" =
        .error (.outOfRange "1.000000000000000000000000000000000000000") := by
  constructor
  · have hnames : (Scale.exponent 40).Names "e40".toList := Scale.names_written (by decide)
    let w : Written :=
      { sign := .none
        whole := ['0']
        fraction := none
        suffix := "e40".toList
        isDigit_of_mem_whole := List.all_eq_true.1 rfl
        isDigit_of_mem_fraction := List.all_eq_true.1 rfl
        digits_ne_nil := by decide
        suffix_head := hnames.isNumeralChar_head? }
    have hmantissa : w.mantissa = 0 := rfl
    refine ⟨w, _, rfl, hnames, ?_, by decide +kernel⟩
    rw [Written.value, hmantissa]
    norm_num
  · let w : Written :=
      { sign := .none
        whole := ['1']
        fraction := some (List.replicate 39 '0')
        suffix := []
        isDigit_of_mem_whole := List.all_eq_true.1 rfl
        isDigit_of_mem_fraction := List.all_eq_true.1 rfl
        digits_ne_nil := by decide
        suffix_head := by simp }
    have hmantissa : w.mantissa = 10 ^ 39 := by decide +kernel
    have hplaces : w.places = 39 := rfl
    refine ⟨w, _, by decide, Scale.names_none, ?_, by decide +kernel⟩
    rw [Written.value, Scale.factor, hmantissa, hplaces]
    norm_num

end NodeFit.Quantity
