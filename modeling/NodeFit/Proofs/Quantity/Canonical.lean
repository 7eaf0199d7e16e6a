import NodeFit.Proofs.Quantity.RoundTrip

/-!
# NodeFit.Proofs.Quantity.Canonical

The canonical text of quantities.

`Canonical` says which mantissa and which suffix an amount is written with: a suffix of its
family, the amount as an exact multiple, and the largest suffix for which it is one.  The
mantissa cannot be divided by another thousand, or by another 1024 in the binary family, unless
there is no larger suffix.

Writing ends, and would do so without a look at zero where thousands are dropped.  Run like that,
the loop goes on for ever at zero (`exists_dropThousandsIn?_iff`), but zero never gets there, and
all other amounts leave it within nine rounds (`textIn?_nine`).

The largest suffix is a predicate over any table of powers of a base (`Largest`), and each of the
families is one instance of it:

* parts of a unit, down to nano-units, in every family;
* the decimal suffixes up to exa;
* the binary suffixes up to exbi, if 1024 divides the units, and else the decimal ones;
* exponents, which go up in threes without an end.
-/

namespace NodeFit.Quantity

/-! ## Rounds -/

/-- Takes out of a number its factors of a thousand, in at most some rounds, and goes on for as
long as there is no remainder.  None if that takes more rounds. -/
def dropThousandsIn? (rounds units exponent : Nat) : Option (Nat × Nat) :=
  if units % 1000 = 0 then
    match rounds with
    | 0 => none
    | rounds + 1 => dropThousandsIn? rounds (units / 1000) (exponent + 3)
  else some (units, exponent)

/-- What an exponent is written as; it is left out when it is zero. -/
def exponentText (exponent : Nat) : String :=
  if exponent = 0 then "" else "e" ++ Text.decimal exponent

/-- The mantissa and the suffix of a magnitude in nano-units, if they are found in some rounds. -/
def partsIn? (rounds : Nat) (format : QuantityFormat) (nanos : Nat) : Option (Nat × String) :=
  if nanos % nanosPerUnit != 0 then some (fractionParts nanos)
  else
    let units := nanos / nanosPerUnit
    if units == 0 then some (0, "")
    else match format with
      | .binarySI => some (binaryParts units)
      | .decimalSI => some (decimalParts units)
      | .decimalExponent =>
        (dropThousandsIn? rounds units 0).map fun (mantissa, exponent) =>
          (mantissa, exponentText exponent)

/-- Sign, mantissa and suffix. -/
def signedText (negative : Bool) (parts : Nat × String) : String :=
  (if negative then "-" else "") ++ Text.decimal parts.1 ++ parts.2

/-- The text of a quantity, if writing it takes at most some rounds. -/
def textIn? (rounds : Nat) (q : Quantity) : Option String :=
  (partsIn? rounds q.format q.nano.natAbs).map (signedText (decide (q.nano < 0)))

section Rounds

variable {rounds units exponent : Nat}

/-- A number of less than so many thousands is left within as many rounds. -/
theorem dropThousandsIn?_of_lt (hpos : 0 < units) (hlt : units < 1000 ^ (rounds + 1)) :
    dropThousandsIn? rounds units exponent = some (dropThousands units exponent) := by
  induction rounds generalizing units exponent with
  | zero =>
      have hmod : units % 1000 ≠ 0 := by omega
      rw [dropThousandsIn?, dropThousands, if_neg hmod, if_neg fun h => hmod h.2]
  | succ rounds ih =>
      rw [dropThousandsIn?, dropThousands]
      by_cases hmod : units % 1000 = 0
      · -- The round that is taken is paid for by the thousand that is dropped.
        have hquotient : units / 1000 < 1000 ^ (rounds + 1) := by
          rw [Nat.pow_succ] at hlt
          exact Nat.div_lt_of_lt_mul (Nat.mul_comm .. ▸ hlt)
        rw [if_pos hmod, if_pos ⟨hpos, hmod⟩]
        exact ih (by omega) hquotient
      · rw [if_neg hmod, if_neg fun h => hmod h.2]

/-- Zero is left in no number of rounds. -/
theorem dropThousandsIn?_zero : dropThousandsIn? rounds 0 exponent = none := by
  induction rounds generalizing exponent with
  | zero => rfl
  | succ rounds ih => exact ih

/-- **Dropping thousands ends for every number but zero.** -/
theorem exists_dropThousandsIn?_iff :
    (∃ rounds result, dropThousandsIn? rounds units exponent = some result) ↔ 0 < units := by
  constructor
  · rintro ⟨rounds, result, h⟩
    refine Nat.pos_of_ne_zero fun hzero => ?_
    rw [hzero, dropThousandsIn?_zero] at h
    contradiction
  · intro hpos
    have hlt : units < 1000 ^ (units + 1) :=
      Nat.lt_trans (Nat.lt_succ_self units) (Nat.lt_pow_self (by decide))
    exact ⟨units, _, dropThousandsIn?_of_lt hpos hlt⟩

/-- The exponent form drops thousands and writes the exponent. -/
theorem exponentParts_eq (units : Nat) :
    exponentParts units =
      ((dropThousands units 0).1, exponentText (dropThousands units 0).2) := by
  simp [exponentParts, exponentText]

/-- No amount has more than nine factors of a thousand in its units. -/
theorem partsIn?_nine (format : QuantityFormat) {nanos : Nat} (h : nanos ≤ limit) :
    partsIn? 9 format nanos = some (parts format nanos) := by
  unfold partsIn? parts
  split
  · rfl
  · simp only
    split
    · rfl
    · next hzero =>
      cases format with
      | binarySI => rfl
      | decimalSI => rfl
      | decimalExponent =>
          have hpos : 0 < nanos / nanosPerUnit := Nat.pos_of_ne_zero (by simpa using hzero)
          have hlt : nanos / nanosPerUnit < 1000 ^ (9 + 1) :=
            calc
              nanos / nanosPerUnit ≤ limit / nanosPerUnit := Nat.div_le_div_right h
              _ < 1000 ^ (9 + 1) := by decide
          simp only [dropThousandsIn?_of_lt hpos hlt, exponentParts_eq, Option.map_some]

/-- The text of a quantity is its sign, its mantissa and its suffix. -/
theorem text_eq_signedText (q : Quantity) :
    q.text = signedText (decide (q.nano < 0)) (parts q.format q.nano.natAbs) := by
  have hnonneg (n : Nat) : ¬(n : Int) < 0 := by omega
  by_cases h : q.nano < 0 <;>
    simp [← String.toList_inj, text, chars, signedText, Text.toList_decimal, Text.intDigits, h,
      hnonneg]

/-- **Writing ends within nine rounds.** -/
theorem textIn?_nine (q : Quantity) : q.textIn? 9 = some q.text := by
  have hle : q.nano.natAbs ≤ limit := by
    have lower := q.le_nano
    have upper := q.nano_lt
    omega
  rw [textIn?, partsIn?_nine q.format hle, text_eq_signedText]
  rfl

end Rounds

/-! ## The largest suffix -/

/-- The suffixes for parts of a unit, each with its power of ten in nano-units. -/
def PartSuffix (power : Nat) (suffix : String) : Prop :=
  (power, suffix) ∈ [(0, "n"), (3, "u"), (6, "m")]

/-- The decimal suffixes for whole units, each with its power of ten. -/
def DecimalSuffix (power : Nat) (suffix : String) : Prop :=
  (power, suffix) ∈ [(0, ""), (3, "k"), (6, "M"), (9, "G"), (12, "T"), (15, "P"), (18, "E")]

/-- The binary suffixes, each with its power of two. -/
def BinarySuffix (power : Nat) (suffix : String) : Prop :=
  (power, suffix) ∈ [(10, "Ki"), (20, "Mi"), (30, "Gi"), (40, "Ti"), (50, "Pi"), (60, "Ei")]

/-- The exponents that are written, all of which are multiples of three. -/
def ExponentSuffix (power : Nat) (suffix : String) : Prop :=
  3 ∣ power ∧ suffix = exponentText power

/-- A number as a mantissa with a suffix that stands for a power of a base.  The number is exactly
the multiple, and a multiple of no greater power that has a suffix. -/
def Largest (base : Nat) (Suffix : Nat → String → Prop) (number mantissa : Nat)
    (suffix : String) : Prop :=
  ∃ power, Suffix power suffix ∧ mantissa * base ^ power = number ∧
    ∀ power' suffix', Suffix power' suffix' → base ^ power' ∣ number → power' ≤ power

/-- The mantissa and the suffix that an amount in nano-units is written with in a family. -/
inductive Canonical : QuantityFormat → Nat → Nat → String → Prop where
  /-- No whole number of units, whatever the family is. -/
  | part {format : QuantityFormat} {nanos mantissa : Nat} {suffix : String} :
      ¬10 ^ 9 ∣ nanos → Largest 10 PartSuffix nanos mantissa suffix → ¬1000 ∣ mantissa →
      Canonical format nanos mantissa suffix
  | decimal {units mantissa : Nat} {suffix : String} :
      Largest 10 DecimalSuffix units mantissa suffix → (1000 ∣ mantissa → suffix = "E") →
      Canonical .decimalSI (units * 10 ^ 9) mantissa suffix
  | binary {units mantissa : Nat} {suffix : String} :
      1024 ∣ units → Largest 2 BinarySuffix units mantissa suffix →
      (1024 ∣ mantissa → suffix = "Ei") →
      Canonical .binarySI (units * 10 ^ 9) mantissa suffix
  /-- Units that no binary suffix divides are written in the decimal family. -/
  | undivided {units mantissa : Nat} {suffix : String} :
      ¬1024 ∣ units → Canonical .decimalSI (units * 10 ^ 9) mantissa suffix →
      Canonical .binarySI (units * 10 ^ 9) mantissa suffix
  | exponent {units mantissa : Nat} {suffix : String} :
      Largest 10 ExponentSuffix units mantissa suffix → ¬1000 ∣ mantissa →
      Canonical .decimalExponent (units * 10 ^ 9) mantissa suffix

section

variable {base step number mantissa power : Nat} {suffix : String}
  {Suffix : Nat → String → Prop}

/-- A mantissa that could be divided by another step has the last suffix of its table. -/
theorem Largest.eq_last {suffixes : List (Nat × String)} {last : String}
    (h : Largest base Suffix number mantissa suffix)
    (htable : ∀ power suffix, Suffix power suffix ↔ (power, suffix) ∈ suffixes)
    (hnext : ∀ entry ∈ suffixes, entry.2 = last ∨ ∃ next ∈ suffixes, next.1 = entry.1 + step)
    (hstep : 0 < step) (hdvd : base ^ step ∣ mantissa) : suffix = last := by
  obtain ⟨power, hsuffix, rfl, hgreatest⟩ := h
  obtain hlast | ⟨next, hmem, hpower⟩ := hnext (power, suffix) ((htable _ _).1 hsuffix)
  · exact hlast
  · -- The next suffix would divide the number as well.
    have hpow : base ^ next.1 ∣ mantissa * base ^ power := by
      rw [hpower, Nat.pow_add, Nat.mul_comm]
      exact Nat.mul_dvd_mul_right hdvd _
    have hle : next.1 ≤ power := hgreatest next.1 next.2 ((htable _ _).2 hmem) hpow
    omega

/-- Conversely, where all powers are multiples of a step, a mantissa that cannot be divided by
the step has the largest suffix. -/
theorem largest_of_not_dvd (hbase : 0 < base)
    (hstep : ∀ power suffix, Suffix power suffix → step ∣ power) (hsuffix : Suffix power suffix)
    (hdvd : ¬base ^ step ∣ mantissa) :
    Largest base Suffix (mantissa * base ^ power) mantissa suffix := by
  refine ⟨power, hsuffix, rfl, fun power' suffix' hsuffix' hpow => Nat.not_lt.1 fun hlt => ?_⟩
  -- A greater power is greater by a step at least, and the mantissa would have to have it.
  obtain ⟨more, hmore⟩ := Nat.dvd_sub (hstep _ _ hsuffix') (hstep _ _ hsuffix)
  have hle : step ≤ step * more := Nat.le_mul_of_pos_right _ (Nat.pos_of_ne_zero ?_)
  · have hpow' : base ^ (step + power) ∣ mantissa * base ^ power :=
      Nat.dvd_trans (Nat.pow_dvd_pow _ (by omega)) hpow
    rw [Nat.pow_add] at hpow'
    exact hdvd (Nat.dvd_of_mul_dvd_mul_right (Nat.pow_pos hbase) hpow')
  · rintro rfl
    omega

end

/-! ## Families -/

section

variable {units nanos : Nat}

/-- Whole units are written with the largest decimal suffix that divides them. -/
theorem largest_decimalParts (units : Nat) :
    Largest 10 DecimalSuffix units (decimalParts units).1 (decimalParts units).2 := by
  unfold decimalParts
  cases h : largestSuffix? (Nat.pow 10) wholeSuffixes units with
  | none =>
      refine ⟨0, List.mem_cons_self, Nat.mul_one _, fun power suffix hsuffix hdvd => ?_⟩
      rcases List.mem_cons.1 hsuffix with hzero | hwhole
      · exact Nat.le_of_eq (Prod.mk.inj hzero).1
      · exact absurd hdvd (largestSuffix?_eq_none_iff.1 h _ hwhole)
  | some entry =>
      obtain ⟨power, hmem, hunits, hgreatest⟩ := exists_of_largestSuffix? (by decide) h
      refine ⟨power, List.mem_cons_of_mem _ hmem, hunits, fun power' suffix hsuffix hdvd => ?_⟩
      rcases List.mem_cons.1 hsuffix with hzero | hwhole
      · rw [(Prod.mk.inj hzero).1]
        exact Nat.zero_le _
      · exact hgreatest _ hwhole hdvd

/-- Whole units have their canonical form in the decimal family. -/
theorem canonical_decimalParts (units : Nat) :
    Canonical .decimalSI (units * 10 ^ 9) (decimalParts units).1 (decimalParts units).2 := by
  have hlargest := largest_decimalParts units
  refine .decimal hlargest fun hdvd => ?_
  have hthousand : 10 ^ 3 ∣ (decimalParts units).1 := hdvd
  exact hlargest.eq_last (fun _ _ => Iff.rfl) (by decide) (by decide) hthousand

/-- Units that are divisible by 1024 are written with the largest binary suffix that divides them.
-/
theorem largest_binaryParts (h : 1024 ∣ units) :
    Largest 2 BinarySuffix units (binaryParts units).1 (binaryParts units).2 := by
  unfold binaryParts
  cases hfind : largestSuffix? (Nat.pow 2) binarySuffixes units with
  | none => exact absurd h (largestSuffix?_eq_none_iff.1 hfind (10, "Ki") (by decide))
  | some entry =>
      obtain ⟨power, hmem, hunits, hgreatest⟩ := exists_of_largestSuffix? (by decide) hfind
      exact ⟨power, hmem, hunits, fun power' suffix hsuffix => hgreatest _ hsuffix⟩

/-- Units that are not divisible by 1024 are written as in the decimal family. -/
theorem binaryParts_of_not_dvd (h : ¬1024 ∣ units) : binaryParts units = decimalParts units := by
  have hall : ∀ entry ∈ binarySuffixes, 1024 ∣ Nat.pow 2 entry.1 := by decide
  rw [binaryParts, largestSuffix?_of_not_dvd hall h]
  rfl

/-- Whole units have their canonical form in the binary family. -/
theorem canonical_binaryParts (units : Nat) :
    Canonical .binarySI (units * 10 ^ 9) (binaryParts units).1 (binaryParts units).2 := by
  by_cases h : 1024 ∣ units
  · have hlargest := largest_binaryParts h
    refine .binary h hlargest fun hdvd => ?_
    have hkibi : 2 ^ 10 ∣ (binaryParts units).1 := hdvd
    exact hlargest.eq_last (fun _ _ => Iff.rfl) (by decide) (by decide) hkibi
  · rw [binaryParts_of_not_dvd h]
    exact .undivided h (canonical_decimalParts units)

/-- The exponent goes up in threes. -/
theorem dvd_dropThousands {exponent : Nat} (h : 3 ∣ exponent) :
    3 ∣ (dropThousands units exponent).2 := by
  fun_induction dropThousands units exponent with
  | case1 units exponent hmod ih => exact ih (by omega)
  | case2 => exact h

/-- Whole units other than zero have their canonical form in the exponent family. -/
theorem canonical_exponentParts (h : 0 < units) :
    Canonical .decimalExponent (units * 10 ^ 9) (exponentParts units).1
      (exponentParts units).2 := by
  have hthree : 3 ∣ (dropThousands units 0).2 := dvd_dropThousands (by decide)
  have hmul : (dropThousands units 0).1 * 10 ^ (dropThousands units 0).2 = units := by
    simpa using dropThousands_mul units 0
  have hdvd : ¬10 ^ 3 ∣ (dropThousands units 0).1 := fun hdvd =>
    dropThousands_mod 0 h (Nat.mod_eq_zero_of_dvd hdvd)
  have hlargest : Largest 10 ExponentSuffix _ (dropThousands units 0).1 _ :=
    largest_of_not_dvd (by decide) (fun _ _ hsuffix => hsuffix.1) ⟨hthree, rfl⟩ hdvd
  rw [hmul] at hlargest
  rw [exponentParts_eq]
  exact .exponent hlargest hdvd

/-- An amount with a suffix for parts, where a larger one would not do. -/
theorem canonical_part {format : QuantityFormat} {power mantissa : Nat} {suffix : String}
    (hsuffix : PartSuffix power suffix) (hnanos : mantissa * 10 ^ power = nanos)
    (hpart : ¬10 ^ 9 ∣ nanos) (hdvd : ¬10 ^ 3 ∣ mantissa) :
    Canonical format nanos mantissa suffix := by
  have htable : ∀ entry ∈ [(0, "n"), (3, "u"), (6, "m")], 3 ∣ entry.1 := by decide
  have hlargest : Largest 10 PartSuffix _ mantissa suffix :=
    largest_of_not_dvd (by decide) (fun power suffix => htable (power, suffix)) hsuffix hdvd
  rw [hnanos] at hlargest
  exact .part hpart hlargest hdvd

/-- What is no whole number of units has its canonical form in every family. -/
theorem canonical_fractionParts (format : QuantityFormat) (h : ¬10 ^ 9 ∣ nanos) :
    Canonical format nanos (fractionParts nanos).1 (fractionParts nanos).2 := by
  have hmilli : Nat.pow 10 6 = 1000000 := rfl
  have hmicro : Nat.pow 10 3 = 1000 := rfl
  have hm : PartSuffix 6 "m" := by simp [PartSuffix]
  have hu : PartSuffix 3 "u" := by simp [PartSuffix]
  have hn : PartSuffix 0 "n" := by simp [PartSuffix]
  simp only [fractionParts, hmilli, hmicro, beq_iff_eq]
  split
  · exact canonical_part hm (by omega) h (by omega)
  · split
    · exact canonical_part hu (by omega) h (by omega)
    · exact canonical_part hn (by omega) h (by omega)

end

/-- **Every amount but zero is written in its canonical form.** -/
theorem canonical_parts (format : QuantityFormat) {nanos : Nat} (h : nanos ≠ 0) :
    Canonical format nanos (parts format nanos).1 (parts format nanos).2 := by
  unfold parts
  split
  · next hpart =>
    refine canonical_fractionParts format fun hdvd => ?_
    have hmod : nanos % nanosPerUnit = 0 := Nat.mod_eq_zero_of_dvd hdvd
    simp [hmod] at hpart
  · next hwhole =>
    have hmod : nanos % nanosPerUnit = 0 := by simpa using hwhole
    have hnanos : nanos / nanosPerUnit * 10 ^ 9 = nanos :=
      Nat.div_mul_cancel (Nat.dvd_of_mod_eq_zero hmod)
    generalize nanos / nanosPerUnit = units at hnanos
    subst hnanos
    have hne : units ≠ 0 := fun hzero => h (by rw [hzero, Nat.zero_mul])
    simp only [beq_iff_eq, if_neg hne]
    cases format with
    | binarySI => exact canonical_binaryParts units
    | decimalSI => exact canonical_decimalParts units
    | decimalExponent => exact canonical_exponentParts (Nat.pos_of_ne_zero hne)

/-- A binary amount that no binary suffix divides is written like a decimal one. -/
theorem parts_of_not_dvd {units : Nat} (h : ¬1024 ∣ units) :
    parts .binarySI (units * 10 ^ 9) = parts .decimalSI (units * 10 ^ 9) := by
  have hunits : units * 10 ^ 9 / nanosPerUnit = units := Nat.mul_div_cancel units (by decide)
  simp only [parts, hunits, binaryParts_of_not_dvd h]

/-- **The text of a quantity is canonical.**  Writing it ends within nine rounds of the loop that
drops thousands, which ends for all numbers but zero.  Zero is written as such, and every other
amount as a sign, a mantissa and the largest suffix of its family that makes it exact. -/
theorem text_canonical (q : Quantity) :
    q.textIn? 9 = some q.text ∧
    (∀ units, (∃ rounds result, dropThousandsIn? rounds units 0 = some result) ↔ 0 < units) ∧
    (q.nano = 0 → q.text = "0") ∧
    (q.nano ≠ 0 → ∃ (mantissa : Nat) (suffix : String),
      q.text = (if q.nano < 0 then "-" else "") ++ Text.decimal mantissa ++ suffix ∧
      Canonical q.format q.nano.natAbs mantissa suffix) ∧
    (∀ units, q.format = .binarySI → q.nano.natAbs = units * 10 ^ 9 → ¬1024 ∣ units →
      q.text = text { q with format := .decimalSI }) := by
  refine ⟨textIn?_nine q, fun _ => exists_dropThousandsIn?_iff, fun hzero => ?_, fun hne => ?_, ?_⟩
  · have hparts : parts q.format 0 = (0, "") := by
      simp [parts]
    rw [text_eq_signedText, hzero]
    simp only [Int.natAbs_zero, hparts]
    rfl
  · refine ⟨_, _, ?_, canonical_parts q.format (by omega)⟩
    rw [text_eq_signedText]
    simp [signedText]
  · intro units hformat hnanos hdvd
    rw [text_eq_signedText, text_eq_signedText, hformat, hnanos, parts_of_not_dvd hdvd]

/-- There is no binary suffix for 2 ^ 70, so that a mantissa is a multiple of 1024, and there is
none for 1500 units at all. -/
theorem text_canonical_exbi :
    text ⟨0, .decimalExponent, by decide, by decide⟩ = "0" ∧
    (∃ (mantissa : Nat) (suffix : String),
      "-2048Ei" = "-" ++ Text.decimal mantissa ++ suffix ∧
      Canonical .binarySI 2361183241434822606848000000000 mantissa suffix) ∧
    text ⟨1500000000000, .binarySI, by decide, by decide⟩ =
      text ⟨1500000000000, .decimalSI, by decide, by decide⟩ := by
  refine ⟨?_, ?_, ?_⟩
  · exact (text_canonical ⟨0, .decimalExponent, by decide, by decide⟩).2.2.1 rfl
  · have htext : text ⟨-2361183241434822606848000000000, .binarySI, by decide, by decide⟩ =
        "-2048Ei" := by decide +kernel
    have h := (text_canonical
      ⟨-2361183241434822606848000000000, .binarySI, by decide, by decide⟩).2.2.2.1 (by decide)
    rw [htext] at h
    exact h
  · exact (text_canonical ⟨1500000000000, .binarySI, by decide, by decide⟩).2.2.2.2 1500 rfl
      (by decide) (by decide)

end NodeFit.Quantity
