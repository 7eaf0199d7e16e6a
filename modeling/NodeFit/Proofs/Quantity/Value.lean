import Mathlib.Algebra.Order.Field.Power
import Mathlib.Data.Rat.Floor
import Mathlib.Tactic.Linarith
import Mathlib.Tactic.Positivity
import Mathlib.Tactic.Ring
import NodeFit.Proofs.Quantity.Suffix
import NodeFit.Proofs.Quantity.Written

/-!
# NodeFit.Proofs.Quantity.Value

The exact value of quantities.

Scaling a numeral gives its value in nano-units, rounded up, whenever the numeral is
in range, and gives nothing otherwise (`magnitude?_eq_some_iff`).  Neither depends on
what becomes of results that overflow: no step of a successful scaling does.

The value is a rational number, the digits times a power of ten for the places and the factor of
the scale (`Written.value`), and rounding up is `⌈·⌉`.  Two orders of the steps have to be
brought to this form:

* in the binary family the factor is multiplied in first, and the places are divided out last
  (`magnitude?_binary`);
* in the others places and factor make one power of ten, which multiplies or divides
  (`magnitude?_decimal`).

`parse_exact` puts the sign and the text around it.
-/

namespace NodeFit.Quantity

open Text (Sign)

/-! ## Division -/

/-- The quotient of two numbers, rounded up. -/
theorem ceil_div {n d : Nat} (h : 0 < d) :
    ⌈(n : ℚ) / d⌉ = if n % d = 0 then ((n / d : Nat) : ℤ) else ((n / d + 1 : Nat) : ℤ) := by
  have hd : (0 : ℚ) < d := by exact_mod_cast h
  have hn : ((n / d : Nat) : ℚ) * d + (n % d : Nat) = n := by
    rw [← Nat.cast_mul, ← Nat.cast_add, Nat.mul_comm, Nat.div_add_mod]
  rw [Int.ceil_eq_iff, lt_div_iff₀ hd, div_le_iff₀ hd]
  split
  · next hr =>
    rw [hr, Nat.cast_zero] at hn
    rw [Int.cast_natCast]
    constructor <;> linarith
  · next hr =>
    have hpos : (0 : ℚ) < (n % d : Nat) := by exact_mod_cast Nat.pos_of_ne_zero hr
    have hlt : ((n % d : Nat) : ℚ) < d := by exact_mod_cast Nat.mod_lt n h
    rw [Int.cast_natCast, Nat.cast_add, Nat.cast_one]
    constructor <;> linarith

/-- Powers of ten up to the 38th have 128 bits. -/
theorem powerOfTen?_natCast {power : Nat} (h : power ≤ maxPower) :
    powerOfTen? power = some ((10 ^ power : Nat) : Int) := by
  rw [powerOfTen?, if_pos ⟨Int.natCast_nonneg _, Int.ofNat_le.2 h⟩]
  rfl

/-- There is no whole power of ten with a negative exponent. -/
theorem powerOfTen?_of_neg {power : Int} (h : power < 0) : powerOfTen? power = none :=
  if_neg fun ⟨hp, _⟩ => by omega

/-- Beyond the 38th, powers of ten have no 128 bits. -/
theorem powerOfTen?_of_lt {power : Nat} (h : maxPower < power) : powerOfTen? power = none :=
  if_neg fun ⟨_, hp⟩ => by omega

/-- From the 39th on, a power of ten exceeds every amount. -/
theorem limit_lt_pow {power : Nat} (h : maxPower < power) : limit < 10 ^ power :=
  calc
    limit < 10 ^ 39 := by decide
    _ ≤ 10 ^ power := Nat.pow_le_pow_right (by decide) h

/-- No amount in range has more than 38 factors of ten. -/
theorem le_maxPower {value power : Nat} (hpos : 0 < value) (h : value * 10 ^ power < limit) :
    power ≤ maxPower := by
  refine Nat.not_lt.1 fun hlt => absurd h (Nat.not_lt.2 ?_)
  exact Nat.le_trans (Nat.le_of_lt (limit_lt_pow hlt)) (Nat.le_mul_of_pos_left _ hpos)

/-- A number is in range if a multiple of it is. -/
theorem lt_limit_of_mul_pow {n power : Nat} (h : n * 10 ^ power < limit) : n < limit :=
  Nat.lt_of_le_of_lt (Nat.le_mul_of_pos_right _ (Nat.pow_pos (by decide))) h

variable {overflow : Word.Overflow}

/-- The part of an amount that a division keeps fits where the amount did. -/
theorem settle_of_le {n m : Nat} (h : m ≤ n) (hn : n < limit) :
    overflow.settle 128 m = some (m : Int) :=
  Word.Overflow.settle_eq_self (by decide) (decide_eq_true (Nat.lt_of_le_of_lt h hn))

/-- **Dividing by a power of ten rounds up**, and nothing overflows on the way. -/
theorem ceilDivPower?_natCast {n : Nat} (power : Nat) (hn : n < limit) :
    ceilDivPower? overflow n power = some ⌈(n : ℚ) * 10 ^ (-(power : ℤ))⌉ := by
  have hvalue : (n : ℚ) * 10 ^ (-(power : ℤ)) = n / (10 ^ power : Nat) := by
    rw [zpow_neg, zpow_natCast, div_eq_mul_inv, Nat.cast_pow, Nat.cast_ofNat]
  rw [hvalue, ceilDivPower?]
  by_cases h : maxPower < power
  · -- A quotient of an amount and more than an amount lies between zero and one.
    have hlt : n < 10 ^ power := Nat.lt_trans hn (limit_lt_pow h)
    rw [if_pos (Int.ofNat_lt.2 h), ceil_div (Nat.pow_pos (by decide)), Nat.mod_eq_of_lt hlt,
      Nat.div_eq_of_lt hlt]
    split <;> split <;> first | rfl | omega
  · have hd : 0 < 10 ^ power := Nat.pow_pos (by decide)
    have hsplit : 10 ^ power * (n / 10 ^ power) + n % 10 ^ power = n := Nat.div_add_mod _ _
    have hquotient : n / 10 ^ power ≤ 10 ^ power * (n / 10 ^ power) :=
      Nat.le_mul_of_pos_left _ hd
    rw [if_neg (by omega), powerOfTen?_natCast (Nat.not_lt.1 h), ceil_div hd]
    simp only [Option.bind_eq_bind, Option.bind_some, ← Int.ofNat_tdiv, ← Int.ofNat_tmod]
    rw [settle_of_le (m := n / 10 ^ power) (by omega) hn,
      settle_of_le (m := n % 10 ^ power) (by omega) hn]
    simp only [Option.bind_some, Int.natCast_eq_zero]
    split
    · rfl
    · next hr => exact settle_of_le (m := n / 10 ^ power + 1) (by omega) hn

/-- There is no division by a power of ten with a negative exponent. -/
theorem ceilDivPower?_of_neg {n power : Int} (h : power < 0) :
    ceilDivPower? overflow n power = none := by
  rw [ceilDivPower?, if_neg (by omega), powerOfTen?_of_neg h]
  rfl

/-! ## Scaling -/

/-- The number that a scale multiplies with. -/
def Scale.factor : Scale → ℚ
  | .binary power => 2 ^ power
  | .decimal power | .exponent power => 10 ^ power

theorem fitsSigned_natCast {bits n : Nat} :
    Text.fitsSigned bits (n : Int) = true ↔ n < 2 ^ (bits - 1) :=
  decide_eq_true_iff

/-- A shift by less than 127 gives the power of two. -/
theorem shiftedOne?_eq {power : Nat} (h : power < 127) :
    shiftedOne? overflow power = some ((2 ^ power : Nat) : Int) := by
  rw [shiftedOne?, if_pos (by omega)]
  exact Word.Overflow.settle_eq_self (by decide)
    (fitsSigned_natCast.2 (Nat.pow_lt_pow_right (by decide) h))

/-- In the binary family, places divide what the factor has made whole nano-units. -/
theorem value_binary (mantissa places power : Nat) :
    (mantissa : ℚ) * 10 ^ (-(places : ℤ)) * 2 ^ power * 10 ^ 9 =
      (mantissa * 2 ^ power * 10 ^ 9 : Nat) * 10 ^ (-(places : ℤ)) := by
  push_cast
  ring

/-- In the other families, places and factor make one power of ten. -/
theorem value_decimal (mantissa places : Nat) (power : ℤ) :
    (mantissa : ℚ) * 10 ^ (-(places : ℤ)) * 10 ^ power * 10 ^ 9 =
      mantissa * 10 ^ (power + 9 - places) := by
  have hnine : (10 : ℚ) ^ 9 = 10 ^ (9 : ℤ) := by norm_num
  rw [hnine, mul_assoc, mul_assoc, ← zpow_add₀ (by norm_num), ← zpow_add₀ (by norm_num)]
  congr 2
  omega

/-- Only places behind the point make an amount smaller. -/
theorem ceil_mul_zpow_le (n : Nat) (power : ℤ) :
    ⌈(n : ℚ) * 10 ^ power⌉ ≤ (n * 10 ^ power.toNat : Nat) := by
  have hpow : (10 : ℚ) ^ power ≤ 10 ^ (power.toNat : ℤ) :=
    zpow_le_zpow_right₀ (by norm_num) (Int.self_le_toNat power)
  rw [Int.ceil_le]
  calc
    (n : ℚ) * 10 ^ power ≤ n * 10 ^ (power.toNat : ℤ) :=
      mul_le_mul_of_nonneg_left hpow (Nat.cast_nonneg n)
    _ = ((n * 10 ^ power.toNat : Nat) : ℤ) := by
      rw [zpow_natCast, Int.cast_natCast, Nat.cast_mul, Nat.cast_pow, Nat.cast_ofNat]

/-- In the binary family a numeral is scaled to its value in nano-units, rounded up, if its digits
times the factor fit. -/
theorem magnitude?_binary {mantissa places power : Nat} {m : Int} (hpower : power < 127) :
    magnitude? overflow mantissa places (.binary power) = some m ↔
      (places < 2 ^ 31 ∧ mantissa * 2 ^ power * 10 ^ 9 < limit) ∧
      m = ⌈(mantissa : ℚ) * 10 ^ (-(places : ℤ)) * 2 ^ power * 10 ^ 9⌉ := by
  have hscaled : (mantissa : Int) * (2 ^ power : Nat) = (mantissa * 2 ^ power : Nat) :=
    (Int.natCast_mul _ _).symm
  have hnanos : ((mantissa * 2 ^ power : Nat) : Int) * nanosPerUnit =
      (mantissa * 2 ^ power * 10 ^ 9 : Nat) := (Int.natCast_mul _ _).symm
  simp only [magnitude?, shiftedOne?_eq hpower, Option.bind_eq_bind, Option.bind_eq_some_iff,
    Word.checked_eq_some_iff, Option.some.injEq]
  rw [value_binary]
  constructor
  · intro h
    obtain ⟨_, ⟨hm, rfl⟩, _, ⟨hp, rfl⟩, _, rfl, _, ⟨hs, rfl⟩, _, ⟨hn, rfl⟩, hq⟩ := h
    rw [hscaled, hnanos] at hn hq
    rw [fitsSigned_natCast] at hp hn
    rw [ceilDivPower?_natCast places hn, Option.some.injEq] at hq
    exact ⟨⟨hp, hn⟩, hq.symm⟩
  · intro h
    obtain ⟨⟨hp, hn⟩, rfl⟩ := h
    -- The last product is the greatest, so that the ones on the way to it fit as well.
    have hs : mantissa * 2 ^ power < limit :=
      Nat.lt_of_le_of_lt (Nat.le_mul_of_pos_right _ (by decide)) hn
    have hm : mantissa < limit :=
      Nat.lt_of_le_of_lt (Nat.le_mul_of_pos_right _ (Nat.two_pow_pos _)) hs
    refine ⟨_, ⟨fitsSigned_natCast.2 hm, rfl⟩, _, ⟨fitsSigned_natCast.2 hp, rfl⟩, _, rfl, _,
      ⟨?_, rfl⟩, _, ⟨?_, rfl⟩, ?_⟩
    · rw [hscaled]
      exact fitsSigned_natCast.2 hs
    · rw [hscaled, hnanos]
      exact fitsSigned_natCast.2 hn
    · rw [hscaled, hnanos, ceilDivPower?_natCast places hn]

/-- Nothing is rounded where nothing is divided. -/
theorem ceil_mul_pow (n power : Nat) :
    ⌈(n : ℚ) * 10 ^ (power : ℤ)⌉ = (n * 10 ^ power : Nat) := by
  rw [zpow_natCast, ← Int.ceil_natCast (R := ℚ), Nat.cast_mul, Nat.cast_pow, Nat.cast_ofNat]

/-- Multiplying keeps to the range of the factor and of the product. -/
theorem timesPower?_natCast {n power : Nat} {m : Int} :
    timesPower? overflow n power = some m ↔
      (power ≤ maxPower ∧ n * 10 ^ power < limit) ∧ m = (n * 10 ^ power : Nat) := by
  rw [timesPower?, if_pos (Int.natCast_nonneg power)]
  by_cases h : power ≤ maxPower
  · simp only [powerOfTen?_natCast h, Option.bind_eq_bind, Option.bind_some,
      ← Int.natCast_mul, Word.checked_eq_some_iff, fitsSigned_natCast]
    exact ⟨fun ⟨hlt, hm⟩ => ⟨⟨h, hlt⟩, hm.symm⟩, fun ⟨⟨_, hlt⟩, hm⟩ => ⟨hlt, hm.symm⟩⟩
  · rw [powerOfTen?_of_lt (Nat.not_le.1 h)]
    exact ⟨fun hm => (nomatch hm), fun ⟨⟨hle, _⟩, _⟩ => absurd hle h⟩

/-- A factor below one divides.  Of all exponents of 32 bits, the least alone has no
opposite to divide with. -/
theorem timesPower?_neg {n power : Nat} {m : Int} (hn : n < limit) (hpos : 0 < power)
    (hle : power ≤ 2 ^ 31) :
    timesPower? overflow n (-(power : ℤ)) = some m ↔
      power < 2 ^ 31 ∧ m = ⌈(n : ℚ) * 10 ^ (-(power : ℤ))⌉ := by
  rw [timesPower?, if_neg (by omega), Int.neg_neg, Option.bind_eq_bind]
  by_cases hlt : power < 2 ^ 31
  · have hsettle : overflow.settle 32 (power : Int) = some (power : Int) :=
      Word.Overflow.settle_eq_self (by decide) (fitsSigned_natCast.2 hlt)
    rw [hsettle, Option.bind_some, ceilDivPower?_natCast power hn, Option.some.injEq]
    exact ⟨fun hm => ⟨hlt, hm.symm⟩, fun ⟨_, hm⟩ => hm.symm⟩
  · obtain rfl : power = 2 ^ 31 := by omega
    have hnone : ((overflow.settle 32 ((2 ^ 31 : Nat) : Int)).bind fun distance =>
        ceilDivPower? overflow n distance) = none := by
      cases overflow with
      | refused => rfl
      | wrapped => exact ceilDivPower?_of_neg (by decide)
    rw [hnone]
    exact ⟨fun hm => (nomatch hm), fun ⟨h, _⟩ => absurd h hlt⟩

/-- **Multiplying with a power of ten rounds up.** -/
theorem timesPower?_eq_some_iff {n : Nat} {power m : Int} (hn : n < limit)
    (hpower : -(2 ^ 31) ≤ power) :
    timesPower? overflow n power = some m ↔
      (-(2 ^ 31) < power ∧ power ≤ maxPower ∧ n * 10 ^ power.toNat < limit) ∧
      m = ⌈(n : ℚ) * 10 ^ power⌉ := by
  by_cases hsign : 0 ≤ power
  · obtain ⟨k, rfl⟩ := Int.eq_ofNat_of_zero_le hsign
    rw [timesPower?_natCast, ceil_mul_pow, Int.toNat_natCast, Int.ofNat_le]
    exact and_congr_left fun _ => ⟨fun h => ⟨by omega, h⟩, fun h => h.2⟩
  · obtain ⟨k, hk⟩ : ∃ k : Nat, -power = k := Int.eq_ofNat_of_zero_le (by omega)
    obtain rfl : power = -(k : ℤ) := by omega
    have hnat : (-(k : ℤ)).toNat = 0 := by omega
    rw [timesPower?_neg hn (by omega) (by omega), hnat, Nat.pow_zero, Nat.mul_one]
    exact and_congr_left fun _ => ⟨fun h => ⟨by omega, by omega, hn⟩, fun h => by omega⟩

/-- In the other families a numeral is scaled to its value in nano-units, rounded up, if the
exponent stays in 32 bits and the product fits. -/
theorem magnitude?_decimal {mantissa places : Nat} {power m : Int} :
    magnitude? overflow mantissa places (.decimal power) = some m ↔
      (places < 2 ^ 31 ∧ -(2 ^ 31) ≤ power + 9 ∧ power + 9 < 2 ^ 31 ∧
        -(2 ^ 31) < power + 9 - places ∧ power + 9 - places ≤ maxPower ∧
        mantissa * 10 ^ (power + 9 - places).toNat < limit) ∧
      m = ⌈(mantissa : ℚ) * 10 ^ (-(places : ℤ)) * 10 ^ power * 10 ^ 9⌉ := by
  simp only [magnitude?, Option.bind_eq_bind, Option.bind_eq_some_iff, Word.checked_eq_some_iff]
  rw [value_decimal]
  constructor
  · intro h
    obtain ⟨_, ⟨hm, rfl⟩, _, ⟨hp, rfl⟩, _, ⟨hr, rfl⟩, _, ⟨hs, rfl⟩, h⟩ := h
    rw [fitsSigned_natCast] at hm hp
    obtain ⟨hr, hr'⟩ := Text.fitsSigned_int32.1 hr
    obtain ⟨hs, -⟩ := Text.fitsSigned_int32.1 hs
    obtain ⟨⟨hlower, hupper, hlt⟩, rfl⟩ :=
      (timesPower?_eq_some_iff hm (by omega)).1 h
    exact ⟨⟨hp, by omega, by omega, hlower, hupper, hlt⟩, rfl⟩
  · intro h
    obtain ⟨⟨hp, hr, hr', hlower, hupper, hlt⟩, rfl⟩ := h
    have hm : mantissa < limit := lt_limit_of_mul_pow hlt
    exact ⟨_, ⟨fitsSigned_natCast.2 hm, rfl⟩, _, ⟨fitsSigned_natCast.2 hp, rfl⟩, _,
      ⟨Text.fitsSigned_int32.2 ⟨by omega, by omega⟩, rfl⟩, _,
      ⟨Text.fitsSigned_int32.2 ⟨by omega, by omega⟩, rfl⟩,
      (timesPower?_eq_some_iff hm (by omega)).2 ⟨⟨hlower, hupper, hlt⟩, rfl⟩⟩

/-- What it takes for a numeral to stay in range while it is scaled. -/
def Scale.InRange (mantissa places : Nat) : Scale → Prop
  | .binary power => places < 2 ^ 31 ∧ mantissa * 2 ^ power * 10 ^ 9 < limit
  | .decimal power | .exponent power =>
    places < 2 ^ 31 ∧ -(2 ^ 31) ≤ power + 9 ∧ power + 9 < 2 ^ 31 ∧
      -(2 ^ 31) < power + 9 - places ∧ power + 9 - places ≤ maxPower ∧
      mantissa * 10 ^ (power + 9 - places).toNat < limit

/-- **The magnitude of a numeral is its exact value, rounded up to nano-units**, as far
as the numeral stays in range. -/
theorem magnitude?_eq_some_iff {scale : Scale} {suffix : List Char} (hscale : scale.Names suffix)
    {mantissa places : Nat} {m : Int} :
    magnitude? overflow mantissa places scale = some m ↔
      scale.InRange mantissa places ∧
      m = ⌈(mantissa : ℚ) * 10 ^ (-(places : ℤ)) * scale.factor * 10 ^ 9⌉ := by
  cases hscale with
  | @binary power text h =>
      have hpower : ∀ entry ∈ binarySuffixes, entry.1 < 127 := by decide
      exact magnitude?_binary (hpower (power, text) h)
  | decimal h => exact magnitude?_decimal
  | exponent => exact magnitude?_decimal

/-- Rounding up does not leave the range. -/
theorem Scale.InRange.ceil_lt {scale : Scale} {mantissa places : Nat}
    (h : scale.InRange mantissa places) :
    ⌈(mantissa : ℚ) * 10 ^ (-(places : ℤ)) * scale.factor * 10 ^ 9⌉ < limit := by
  cases scale with
  | binary power =>
      have hle := ceil_mul_zpow_le (mantissa * 2 ^ power * 10 ^ 9) (-(places : ℤ))
      have hnat : (-(places : ℤ)).toNat = 0 := by omega
      rw [hnat, Nat.pow_zero, Nat.mul_one] at hle
      rw [factor, value_binary]
      exact lt_of_le_of_lt hle (Int.ofNat_lt.2 h.2)
  | decimal power | exponent power =>
      have hle := ceil_mul_zpow_le mantissa (power + 9 - places)
      rw [factor, value_decimal]
      exact lt_of_le_of_lt hle (Int.ofNat_lt.2 h.2.2.2.2.2)

/-- The value of a numeral is not negative. -/
theorem ceil_value_nonneg (scale : Scale) (mantissa places : Nat) :
    0 ≤ ⌈(mantissa : ℚ) * 10 ^ (-(places : ℤ)) * scale.factor * 10 ^ 9⌉ := by
  have hfactor : 0 ≤ scale.factor := by
    cases scale <;> (rw [Scale.factor]; positivity)
  exact Int.ceil_nonneg (by positivity)

/-! ## Parsing -/

/-- The exact value of a written quantity whose suffix names a scale. -/
def Written.value (w : Written) (scale : Scale) : ℚ :=
  w.mantissa * 10 ^ (-(w.places : ℤ)) * scale.factor

/-- A magnitude in range takes either sign. -/
theorem ofMagnitude_nano {sign : Sign} {m : Int} {format : QuantityFormat} (h : 0 ≤ m)
    (hlt : m < limit) : (ofMagnitude sign.isMinus m format).nano = sign.apply m := by
  refine (Word.wrap_eq_self_iff (by decide)).2 (Text.fitsSigned_iff.2 ?_)
  have hlimit : (Nat.pow 2 (128 - 1) : Int) = limit := rfl
  rw [hlimit]
  split <;> omega

/-- **A parsed quantity is exact.**  Its amount is the value of the text in nano-units, rounded
up before the sign is put in front, and it comes out the same when every operation refuses
a result that has no form of its width.  Its format is the family of its suffix. -/
theorem parse_exact {s : String} {q : Quantity} (h : parse s = .ok q) :
    ∃ (w : Written) (scale : Scale),
      w.chars = s.toList ∧ (∀ w' : Written, w'.chars = s.toList → w' = w) ∧
      scale.Names w.suffix ∧
      q.nano = w.sign.apply ⌈w.value scale * 10 ^ 9⌉ ∧
      scale.InFamily q.format ∧
      q.nano ≠ -limit ∧
      magnitude? .refused w.mantissa w.places scale = some ⌈w.value scale * 10 ^ 9⌉ := by
  obtain ⟨w, hw⟩ := exists_written_of_parse h
  have hs : s = String.ofList w.chars := by rw [hw, String.ofList_toList]
  rw [hs] at h
  obtain ⟨scale, m, hsuffix, hm, rfl⟩ := exists_scale_of_parse h
  have hnames : scale.Names w.suffix := Scale.ofSuffix?_eq_some_iff.1 hsuffix
  obtain ⟨hrange, rfl⟩ := (magnitude?_eq_some_iff hnames).1 hm
  have hnonneg := ceil_value_nonneg scale w.mantissa w.places
  have hlt := hrange.ceil_lt
  have hnano : (ofMagnitude w.sign.isMinus _ scale.format).nano = _ :=
    ofMagnitude_nano hnonneg hlt
  refine ⟨w, scale, hw, fun w' hw' => Written.chars_injective (hw'.trans hw.symm), hnames, hnano,
    scale.inFamily_format, ?_, (magnitude?_eq_some_iff hnames).2 ⟨hrange, rfl⟩⟩
  rw [hnano, Sign.apply]
  split <;> omega

/-- A sign, places that are finer than nano-units, and a binary suffix, all at once. -/
theorem parse_exact_kibi :
    ∃ q : Quantity, parse "-1.00000000001Ki" = .ok q ∧ q.nano = -1024000000011 ∧
      ∃ (w : Written) (power : Nat),
        w.chars = "-1.00000000001Ki".toList ∧ (Scale.binary power).Names w.suffix ∧
        q.nano = w.sign.apply ⌈w.value (.binary power) * 10 ^ 9⌉ := by
  have h : parse "-1.00000000001Ki" = .ok ⟨-1024000000011, .binarySI, by decide, by decide⟩ := by
    decide +kernel
  obtain ⟨w, scale, hw, -, hnames, hnano, hfamily, -⟩ := parse_exact h
  -- Only powers of two make a quantity of the binary family.
  cases hfamily with
  | binary power => exact ⟨_, h, rfl, w, power, hw, hnames, hnano⟩

end NodeFit.Quantity
