import NodeFit.Proofs.Quantity.Value
import NodeFit.Quantity.Printer

/-!
# NodeFit.Proofs.Quantity.RoundTrip

Reading undoes writing.

A quantity is written with a suffix that names a scale, and its mantissa times the
scale is exactly its amount (`exists_scale_of_parts`).  Reading takes the suffix back
to the scale and the mantissa back to the amount, also when the scale belongs to
another family than the quantity, and writing the result once more gives the same
text.

Four ways of writing have to be followed, three for whole units by families and one for amounts
that are no whole number of units; each ends in the same statement, that some scale is exact
(`Scale.Exact`).  Only the least quantity is left out, whose mantissa is one more than the
greatest (`parse_text_of_eq`).
-/

namespace NodeFit.Quantity

open Text (Sign)

/-! ## Exact scales -/

/-- A mantissa times a scale is exactly an amount in nano-units. -/
def Scale.Exact (mantissa nanos : Nat) : Scale → Prop
  | .binary power => mantissa * 2 ^ power * 10 ^ 9 = nanos
  | .decimal power | .exponent power =>
    ∃ raised : Nat, power + 9 = raised ∧ raised ≤ maxPower ∧ mantissa * 10 ^ raised = nanos

variable {overflow : Word.Overflow} {scale : Scale} {suffix : List Char} {mantissa nanos : Nat}

/-- Exact amounts are read as they are. -/
theorem Scale.Exact.magnitude?_eq (h : scale.Exact mantissa nanos) (hscale : scale.Names suffix)
    (hn : nanos < limit) : magnitude? overflow mantissa 0 scale = some (nanos : Int) := by
  rw [magnitude?_eq_some_iff hscale]
  cases scale with
  | binary power =>
      obtain rfl := h
      rw [factor, value_binary]
      refine ⟨⟨by decide, hn⟩, ?_⟩
      rw [Nat.cast_zero, neg_zero, zpow_zero, mul_one, Int.ceil_natCast]
  | decimal power | exponent power =>
      obtain ⟨raised, hraised, hmax, rfl⟩ := h
      have hshift : power + 9 - (0 : Nat) = raised := by omega
      have hle : raised ≤ 38 := hmax
      rw [factor, value_decimal, hshift, ceil_mul_pow, InRange, hshift]
      exact ⟨⟨by decide, by omega, by omega, by omega, Int.ofNat_le.2 hmax, hn⟩, rfl⟩

/-! ## Suffixes of the tables -/

section

variable {factor : Nat → Nat} {suffixes : List (Nat × String)} {units : Nat}

/-- **The suffix that is found divides the number**, and in an ascending table it is the largest
one that does. -/
theorem exists_of_largestSuffix? {text : String}
    (hsorted : suffixes.Pairwise fun entry next => entry.1 < next.1)
    (h : largestSuffix? factor suffixes units = some (mantissa, text)) :
    ∃ power, (power, text) ∈ suffixes ∧ mantissa * factor power = units ∧
      ∀ entry ∈ suffixes, factor entry.1 ∣ units → entry.1 ≤ power := by
  obtain ⟨⟨power, _⟩, hfind, hentry⟩ := Option.map_eq_some_iff.1 h
  obtain ⟨rfl, rfl⟩ := Prod.mk.inj hentry
  obtain ⟨hmod, larger, smaller, hsplit, hlarger⟩ := List.find?_eq_some_iff_append.1 hfind
  obtain rfl : suffixes = smaller.reverse ++ (power, _) :: larger.reverse := by
    simpa using congrArg List.reverse hsplit
  have hdvd : factor power ∣ units := Nat.dvd_of_mod_eq_zero (by simpa using hmod)
  refine ⟨power, by simp, Nat.div_mul_cancel hdvd, fun entry hmem hentry => ?_⟩
  rcases List.mem_append.1 hmem with hsmaller | hmem
  · exact Nat.le_of_lt ((List.pairwise_append.1 hsorted).2.2 _ hsmaller _ List.mem_cons_self)
  · rcases List.mem_cons.1 hmem with rfl | hmem
    · exact Nat.le_refl _
    · have hnot := hlarger entry (List.mem_reverse.1 hmem)
      simp [Nat.mod_eq_zero_of_dvd hentry] at hnot

/-- No suffix is found for a number that none divides, and for no other. -/
theorem largestSuffix?_eq_none_iff :
    largestSuffix? factor suffixes units = none ↔
      ∀ entry ∈ suffixes, ¬factor entry.1 ∣ units := by
  rw [largestSuffix?, Option.map_eq_none_iff, List.find?_eq_none]
  simp [Nat.dvd_iff_mod_eq_zero]

/-- What divides all suffixes of a table, but not the number, rules all of them out. -/
theorem largestSuffix?_of_not_dvd {divisor : Nat}
    (hall : ∀ entry ∈ suffixes, divisor ∣ factor entry.1) (h : ¬divisor ∣ units) :
    largestSuffix? factor suffixes units = none :=
  largestSuffix?_eq_none_iff.2 fun entry hentry hdvd => h (Nat.dvd_trans (hall entry hentry) hdvd)

end

/-- Whole units in the decimal family. -/
theorem exists_scale_of_decimalParts (units : Nat) :
    ∃ scale : Scale, scale.format = .decimalSI ∧ scale.Names (decimalParts units).2.toList ∧
      scale.Exact (decimalParts units).1 (units * 10 ^ 9) := by
  unfold decimalParts
  cases h : largestSuffix? (Nat.pow 10) wholeSuffixes units with
  | none =>
      exact ⟨.decimal 0, rfl, Scale.names_none, 9, rfl, by decide, rfl⟩
  | some entry =>
      obtain ⟨power, hmem, hunits, -⟩ := exists_of_largestSuffix? (by decide) h
      have hle : ∀ entry ∈ wholeSuffixes, entry.1 ≤ 18 := by decide
      have hpower : power ≤ 18 := hle _ hmem
      refine ⟨.decimal power, rfl, Scale.names_whole hmem, power + 9, rfl,
        Nat.add_le_add_right hpower 9 |>.trans (by decide), ?_⟩
      rw [Nat.pow_add, ← Nat.mul_assoc, ← hunits]
      rfl

/-- A number of units that no thousand divides takes no suffix in the decimal family. -/
theorem decimalParts_of_mod {units : Nat} (h : units % 1000 ≠ 0) :
    decimalParts units = (units, "") := by
  have hall : ∀ entry ∈ wholeSuffixes, 1000 ∣ Nat.pow 10 entry.1 := by decide
  rw [decimalParts, largestSuffix?_of_not_dvd hall fun hdvd => h (Nat.mod_eq_zero_of_dvd hdvd)]
  rfl

/-! ## The exponent family -/

/-- Dropping a factor of a thousand raises the exponent for it. -/
theorem dropThousands_mul (units exponent : Nat) :
    (dropThousands units exponent).1 * 10 ^ (dropThousands units exponent).2 =
      units * 10 ^ exponent := by
  fun_induction dropThousands units exponent with
  | case1 units exponent h ih =>
      have hunits : units / 1000 * 1000 = units := Nat.div_mul_cancel (Nat.dvd_of_mod_eq_zero h.2)
      rw [ih, Nat.pow_add, Nat.mul_comm (10 ^ exponent), ← Nat.mul_assoc]
      exact congrArg (· * 10 ^ exponent) hunits
  | case2 => rfl

/-- All factors of a thousand are dropped. -/
theorem dropThousands_mod {units : Nat} (exponent : Nat) (h : 0 < units) :
    (dropThousands units exponent).1 % 1000 ≠ 0 := by
  fun_induction dropThousands units exponent with
  | case1 units exponent hmod ih => exact ih (by omega)
  | case2 units exponent hmod => omega

/-- The exponent form of an amount in range.  Without an exponent, it is the decimal form. -/
theorem exists_scale_of_exponentParts {units : Nat} (hpos : 0 < units)
    (hn : units * 10 ^ 9 < limit) :
    ∃ scale : Scale, scale.Names (exponentParts units).2.toList ∧
      scale.Exact (exponentParts units).1 (units * 10 ^ 9) ∧
      (scale.format = .decimalExponent ∨
        scale.format = .decimalSI ∧ decimalParts units = exponentParts units) := by
  have hmul := dropThousands_mul units 0
  have hmod := dropThousands_mod 0 hpos
  simp only [exponentParts]
  generalize dropThousands units 0 = parts at hmul hmod
  obtain ⟨value, exponent⟩ := parts
  simp only [Nat.pow_zero, Nat.mul_one] at hmul hmod ⊢
  split
  · next h =>
    obtain rfl : exponent = 0 := by simpa using h
    obtain rfl : value = units := by simpa using hmul
    exact ⟨.decimal 0, Scale.names_none, ⟨9, rfl, by decide, rfl⟩,
      .inr ⟨rfl, decimalParts_of_mod hmod⟩⟩
  · have hnanos : value * 10 ^ (exponent + 9) = units * 10 ^ 9 := by
      rw [Nat.pow_add, ← Nat.mul_assoc, hmul]
    have hmax : exponent + 9 ≤ maxPower := le_maxPower (by omega) (hnanos ▸ hn)
    have hle : exponent + 9 ≤ 38 := hmax
    have hfits : Text.fitsSigned 32 (exponent : Int) = true :=
      fitsSigned_natCast.2 (by omega)
    exact ⟨.exponent exponent, Scale.names_written hfits, ⟨exponent + 9, rfl, hmax, hnanos⟩,
      .inl rfl⟩

/-! ## All families -/

/-- An amount that is not a whole number of units. -/
theorem exists_scale_of_fractionParts (n : Nat) :
    ∃ scale : Scale, scale.Names (fractionParts n).2.toList ∧
      scale.Exact (fractionParts n).1 n := by
  have hmilli : (Scale.decimal (-3)).Names "m".toList := Scale.names_part (by decide)
  have hmicro : (Scale.decimal (-6)).Names "u".toList := Scale.names_part (by decide)
  have hnano : (Scale.decimal (-9)).Names "n".toList := Scale.names_part (by decide)
  unfold fractionParts
  split
  · next h =>
    exact ⟨_, hmilli, 6, rfl, by decide,
      Nat.div_mul_cancel (Nat.dvd_of_mod_eq_zero (beq_iff_eq.1 h))⟩
  · split
    · next h =>
      exact ⟨_, hmicro, 3, rfl, by decide,
        Nat.div_mul_cancel (Nat.dvd_of_mod_eq_zero (beq_iff_eq.1 h))⟩
    · exact ⟨_, hnano, 0, rfl, by decide, Nat.mul_one n⟩

/-- Whole units in the binary family, or in the decimal one. -/
theorem exists_scale_of_binaryParts (units : Nat) :
    ∃ scale : Scale, scale.Names (binaryParts units).2.toList ∧
      scale.Exact (binaryParts units).1 (units * 10 ^ 9) ∧
      (scale.format = .binarySI ∨
        scale.format = .decimalSI ∧ decimalParts units = binaryParts units) := by
  unfold binaryParts
  cases h : largestSuffix? (Nat.pow 2) binarySuffixes units with
  | none =>
      obtain ⟨scale, hformat, hnames, hexact⟩ := exists_scale_of_decimalParts units
      exact ⟨scale, hnames, hexact, .inr ⟨hformat, rfl⟩⟩
  | some entry =>
      obtain ⟨power, hmem, hunits, -⟩ := exists_of_largestSuffix? (by decide) h
      exact ⟨.binary power, .binary hmem, congrArg (· * 10 ^ 9) hunits, .inl rfl⟩

/-- **Amounts are written exactly**, with a suffix that names a scale.  The family of the
scale may be another one, but then it writes the amount in the same way. -/
theorem exists_scale_of_parts (format : QuantityFormat) {nanos : Nat} (hn : nanos < limit) :
    ∃ scale : Scale, scale.Names (parts format nanos).2.toList ∧
      scale.Exact (parts format nanos).1 nanos ∧
      parts scale.format nanos = parts format nanos := by
  unfold parts
  split
  · obtain ⟨scale, hnames, hexact⟩ := exists_scale_of_fractionParts nanos
    exact ⟨scale, hnames, hexact, rfl⟩
  · next hwhole =>
    have hmod : nanos % nanosPerUnit = 0 := by simpa using hwhole
    have hnanos : nanos / nanosPerUnit * 10 ^ 9 = nanos :=
      Nat.div_mul_cancel (Nat.dvd_of_mod_eq_zero hmod)
    generalize nanos / nanosPerUnit = units at hnanos
    subst hnanos
    simp only
    split
    -- Zero has no suffix whatever its family is, and is read in the decimal one.
    · next hzero =>
      obtain rfl : units = 0 := by simpa using hzero
      exact ⟨.decimal 0, Scale.names_none, ⟨9, rfl, by decide, rfl⟩, rfl⟩
    · next hzero =>
      cases format with
      | binarySI =>
          obtain ⟨scale, hnames, hexact, hformat | ⟨hformat, hparts⟩⟩ :=
            exists_scale_of_binaryParts units
          · exact ⟨scale, hnames, hexact, by rw [hformat]⟩
          · exact ⟨scale, hnames, hexact, by rw [hformat]; exact hparts⟩
      | decimalSI =>
          obtain ⟨scale, hformat, hnames, hexact⟩ := exists_scale_of_decimalParts units
          exact ⟨scale, hnames, hexact, by rw [hformat]⟩
      | decimalExponent =>
          have hpos : 0 < units := Nat.pos_of_ne_zero (by simpa using hzero)
          obtain ⟨scale, hnames, hexact, hformat | ⟨hformat, hparts⟩⟩ :=
            exists_scale_of_exponentParts hpos hn
          · exact ⟨scale, hnames, hexact, by rw [hformat]⟩
          · exact ⟨scale, hnames, hexact, by rw [hformat]; exact hparts⟩

/-! ## Reading back -/

/-- A quantity that is written without a point. -/
def Written.ofNat (sign : Sign) (n : Nat) (suffix : List Char)
    (h : ∀ c ∈ suffix.head?, isNumeralChar c = false) : Written where
  sign
  whole := Text.natDigits n
  fraction := none
  suffix
  isDigit_of_mem_whole _ := Text.isDigit_of_mem_natDigits
  isDigit_of_mem_fraction _ h := nomatch h
  digits_ne_nil h := Text.natDigits_ne_nil n (List.append_eq_nil_iff.1 h).1
  suffix_head := h

theorem Written.mantissa_ofNat (sign : Sign) (n : Nat) (suffix : List Char)
    (h : ∀ c ∈ suffix.head?, isNumeralChar c = false) :
    (Written.ofNat sign n suffix h).mantissa = n := by
  change Text.natOfDigits (Text.natDigits n ++ []) = n
  rw [List.append_nil, Text.natOfDigits_natDigits]

/-- The text of a quantity is that of a written quantity. -/
theorem text_eq_of_parts {q : Quantity} {n : Nat} {suffix : String}
    (hparts : parts q.format q.nano.natAbs = (n, suffix))
    (h : ∀ c ∈ suffix.toList.head?, isNumeralChar c = false) :
    q.text = String.ofList (Written.ofNat (.ofInt q.nano) n suffix.toList h).chars := by
  have hsign : (Sign.ofInt q.nano).chars = if q.nano < 0 then ['-'] else [] := by
    rw [Sign.ofInt]
    split <;> rfl
  rw [text, chars, hparts, ← hsign]
  change String.ofList ((Sign.ofInt q.nano).chars ++ Text.natDigits n ++ suffix.toList) =
    String.ofList ((Sign.ofInt q.nano).chars ++ ((Text.natDigits n ++ []) ++ suffix.toList))
  rw [List.append_nil, List.append_assoc]

/-- Writing looks at the family through the parts alone. -/
theorem text_congr {q r : Quantity} (hnano : r.nano = q.nano)
    (hparts : parts r.format q.nano.natAbs = parts q.format q.nano.natAbs) : r.text = q.text := by
  rw [text, chars, hnano, hparts]
  rfl

/-- Reading takes the suffix back to its scale and the mantissa to the amount. -/
theorem exists_parse_text {q : Quantity} (hq : q.nano ≠ -limit) :
    ∃ r : Quantity, parse q.text = .ok r ∧ r.nano = q.nano ∧ r.text = q.text := by
  have hlt : q.nano.natAbs < limit := by
    have lower := q.le_nano
    have upper := q.nano_lt
    omega
  obtain ⟨scale, hnames, hexact, hsame⟩ := exists_scale_of_parts q.format hlt
  rcases hparts : parts q.format q.nano.natAbs with ⟨n, suffix⟩
  rw [hparts] at hnames hexact
  have hhead := hnames.isNumeralChar_head?
  have hmantissa := Written.mantissa_ofNat (.ofInt q.nano) n suffix.toList hhead
  have hmagnitude : magnitude? .wrapped n 0 scale = some (q.nano.natAbs : Int) :=
    hexact.magnitude?_eq hnames hlt
  rw [← hmantissa] at hmagnitude
  have hparse := parse_ofList_chars_eq_ok (Scale.ofSuffix?_eq_some_iff.2 hnames) hmagnitude
  rw [← text_eq_of_parts hparts hhead] at hparse
  have hnano : (ofMagnitude (Sign.ofInt q.nano).isMinus q.nano.natAbs scale.format).nano =
      q.nano := by
    rw [ofMagnitude_nano (Int.natCast_nonneg _) (Int.ofNat_lt.2 hlt), Sign.apply_natAbs]
  exact ⟨_, hparse, hnano, text_congr hnano hsame⟩

/-- The least quantity is written with a mantissa that is out of range. -/
theorem parse_text_of_eq {q : Quantity} (hq : q.nano = -limit) :
    parse q.text = .error (.outOfRange q.text) := by
  have hparts : parts q.format q.nano.natAbs = (limit, "n") := by
    rw [hq]
    cases q.format <;> decide +kernel
  have hnames : (Scale.decimal (-9)).Names "n".toList := Scale.names_part (by decide)
  have hmagnitude : magnitude? .wrapped limit 0 (.decimal (-9)) = none := by decide +kernel
  rw [text_eq_of_parts hparts hnames.isNumeralChar_head?]
  exact parse_ofList_chars_eq_outOfRange (Scale.ofSuffix?_eq_some_iff.2 hnames)
    (Written.mantissa_ofNat .. ▸ hmagnitude)

/-- **Reading undoes writing**, for every quantity but the least, which negative quantities
add up to. -/
theorem parse_text (q : Quantity) :
    (q.nano ≠ -limit →
      ∃ r : Quantity, parse q.text = .ok r ∧ r.nano = q.nano ∧ r.text = q.text) ∧
    (q.nano = -limit → parse q.text = .error (.outOfRange q.text)) ∧
    ∃ (s t : String) (a b : Quantity), parse s = .ok a ∧ parse t = .ok b ∧
      a.nano < 0 ∧ b.nano < 0 ∧ (a.add b).nano = -limit := by
  have ha : parse "-170141183460469231731687303715884105727n" =
      .ok ⟨1 - limit, .decimalSI, by decide, by decide⟩ := by decide +kernel
  have hb : parse "-1n" = .ok ⟨-1, .decimalSI, by decide, by decide⟩ := by decide +kernel
  exact ⟨exists_parse_text, parse_text_of_eq, _, _, _, _, ha, hb, by decide, by decide,
    by decide +kernel⟩

/-- No binary suffix divides 1500 units, so that they are read in the decimal family. -/
theorem parse_text_decimal :
    ∃ r : Quantity, parse "-1500" = .ok r ∧ r.nano = -1500000000000 ∧ r.text = "-1500" := by
  have htext : text ⟨-1500000000000, .binarySI, by decide, by decide⟩ = "-1500" := by
    decide +kernel
  have hparse := (parse_text ⟨-1500000000000, .binarySI, by decide, by decide⟩).1 (by decide)
  rwa [htext] at hparse

end NodeFit.Quantity
