import NodeFit.Proofs.Quantity.Range

/-!
# NodeFit.Proofs.Quantity.Grammar

The grammar of quantities.

A text is a quantity in form when its numeral is a number and its suffix names a scale
(`InForm`).  Such a text is read or out of range.  Any other has one of the faults that
`Faults` lists, and is refused for it (`parse_rejects`): the numeral is looked at before the
suffix, whatever the suffix is.

Every error but that of the empty text carries the whole text, and an unknown suffix is named
besides.  Which of two faults is reported is fixed, so that `Faults` relates a text to one error at
most.
-/

namespace NodeFit.Quantity

open Text (Sign)

/-! ## Form -/

/-- A text of which the numeral is a number and the suffix names a scale. -/
def InForm (s : String) : Prop :=
  ∃ (sign : Sign) (numeral suffix : List Char) (scale : Scale),
    Cut s.toList sign numeral suffix ∧ IsNumber numeral ∧ scale.Names suffix

/-- What is wrong with a text that is not in form. -/
inductive Faults : String → QuantityError → Prop where
  | empty : Faults "" .empty
  | invalidNumber {s : String} {sign : Sign} {numeral suffix : List Char} : s ≠ "" →
      Cut s.toList sign numeral suffix → ¬IsNumber numeral → Faults s (.invalidNumber s)
  | unknownSuffix {s : String} {sign : Sign} {numeral suffix : List Char} :
      Cut s.toList sign numeral suffix → IsNumber numeral →
      (∀ scale : Scale, ¬scale.Names suffix) →
      Faults s (.unknownSuffix s (String.ofList suffix))

variable {s : String}

/-- **A text is in form or has a fault.** -/
theorem inForm_or_faults (s : String) : InForm s ∨ ∃ e, Faults s e := by
  by_cases hempty : s = ""
  · subst hempty
    exact .inr ⟨_, .empty⟩
  · obtain ⟨sign, numeral, suffix, hcut⟩ := exists_cut s.toList
    by_cases hnumber : IsNumber numeral
    · by_cases hsuffix : ∃ scale : Scale, scale.Names suffix
      · obtain ⟨scale, hscale⟩ := hsuffix
        exact .inl ⟨sign, numeral, suffix, scale, hcut, hnumber, hscale⟩
      · exact .inr ⟨_, .unknownSuffix hcut hnumber (not_exists.1 hsuffix)⟩
    · exact .inr ⟨_, .invalidNumber hempty hcut hnumber⟩

/-- A fault is what is reported. -/
theorem Faults.parse_eq {e : QuantityError} (h : Faults s e) : parse s = .error e := by
  cases h with
  | empty => rfl
  | invalidNumber hne hcut hnumber =>
      rw [hcut.parse_eq hne, parseAmount]
      exact if_pos (not_isNumber_iff.1 hnumber)
  | unknownSuffix hcut hnumber hsuffix =>
      obtain ⟨w, hw, -, rfl⟩ := hcut.exists_written hnumber
      have hnone : Scale.ofSuffix? w.suffix = none :=
        Option.eq_none_iff_forall_ne_some.2 fun scale h => hsuffix scale (Scale.names_of_ofSuffix? h)
      obtain rfl : s = String.ofList w.chars := by rw [hw, String.ofList_toList]
      rw [parse_ofList_chars, parseAmount, if_neg (digits_numeral w)]
      simp only [hnone]

/-- Being out of range is no fault of the form. -/
theorem Faults.ne_outOfRange {e : QuantityError} (h : Faults s e) : e ≠ .outOfRange s := by
  cases h <;> simp

/-- **A written quantity is read as its exact amount**, in the family of its suffix, or it is out
of range. -/
theorem parse_written (w : Written) {scale : Scale} (hscale : scale.Names w.suffix) :
    parse (String.ofList w.chars) = .error (.outOfRange (String.ofList w.chars)) ∨
    ∃ q : Quantity, parse (String.ofList w.chars) = .ok q ∧ q.format = scale.format ∧
      q.nano = w.sign.apply ⌈w.value scale * 10 ^ 9⌉ := by
  by_cases h : scale.InRange w.mantissa w.places
  · have hread := parse_ofList_chars_eq_ok (Scale.ofSuffix?_of_names hscale)
      ((magnitude?_eq_some_iff hscale).2 ⟨h, rfl⟩)
    exact .inr ⟨_, hread, rfl,
      ofMagnitude_nano (ceil_value_nonneg scale w.mantissa w.places) h.ceil_lt⟩
  · exact .inl (parse_of_not_inRange hscale h)

/-- A text that is in form is read or out of range. -/
theorem InForm.parse (h : InForm s) :
    (∃ q, Quantity.parse s = .ok q) ∨ Quantity.parse s = .error (.outOfRange s) := by
  obtain ⟨sign, numeral, suffix, scale, hcut, hnumber, hscale⟩ := h
  obtain ⟨w, hw, -, rfl⟩ := hcut.exists_written hnumber
  obtain rfl : s = String.ofList w.chars := by rw [hw, String.ofList_toList]
  obtain hout | ⟨q, hq, -⟩ := parse_written w hscale
  · exact .inr hout
  · exact .inl ⟨q, hq⟩

/-- Any error but that of the range is the fault of the text. -/
theorem parse_eq_error_iff {e : QuantityError} (hne : e ≠ .outOfRange s) :
    parse s = .error e ↔ Faults s e := by
  refine ⟨fun h => ?_, Faults.parse_eq⟩
  obtain hform | ⟨e', he'⟩ := inForm_or_faults s
  · obtain ⟨q, hq⟩ | hout := hform.parse
    · rw [hq] at h
      contradiction
    · exact absurd (Except.error.inj (h.symm.trans hout)) hne
  · obtain rfl : e = e' := Except.error.inj (h.symm.trans he'.parse_eq)
    exact he'

/-- The texts that are read or out of range are those that are in form. -/
theorem parse_or_outOfRange_iff :
    ((∃ q, parse s = .ok q) ∨ parse s = .error (.outOfRange s)) ↔ InForm s := by
  refine ⟨fun h => ?_, InForm.parse⟩
  obtain hform | ⟨e, he⟩ := inForm_or_faults s
  · exact hform
  · rw [he.parse_eq] at h
    obtain ⟨q, hq⟩ | hout := h
    · contradiction
    · exact absurd (Except.error.inj hout) he.ne_outOfRange

/-- A suffix names the one scale that it is looked up as. -/
theorem Scale.names_iff_of_ofSuffix? {suffix : List Char} {scale : Scale}
    (h : ofSuffix? suffix = some scale) (other : Scale) : other.Names suffix ↔ other = scale := by
  rw [← ofSuffix?_eq_some_iff, h, Option.some.injEq, eq_comm]

/-- **Which texts are refused, and why.**  The empty text is; so is one whose numeral has no digit
or more than one point, whatever its suffix is; and one whose numeral is in order but whose suffix
names no scale.  All others are read or out of range, and if read then as the exact amount, in the
family of the suffix.  Behind any numeral, `E` is a decimal suffix, `Ei` a binary one and `E3` an
exponent. -/
theorem parse_rejects (s : String) :
    (parse s = .error .empty ↔ s = "") ∧
    (∀ e, e ≠ .outOfRange s → (parse s = .error e ↔ Faults s e)) ∧
    ((∃ q, parse s = .ok q) ∨ parse s = .error (.outOfRange s) ↔ InForm s) ∧
    (∀ (w : Written) (scale : Scale), w.chars = s.toList → scale.Names w.suffix →
      ∀ q, parse s = .ok q →
        q.format = scale.format ∧ q.nano = w.sign.apply ⌈w.value scale * 10 ^ 9⌉) ∧
    (∀ scale : Scale, scale.Names "E".toList ↔ scale = .decimal 18) ∧
    (∀ scale : Scale, scale.Names "Ei".toList ↔ scale = .binary 60) ∧
    ∀ scale : Scale, scale.Names "E3".toList ↔ scale = .exponent 3 := by
  refine ⟨?_, fun e => parse_eq_error_iff, parse_or_outOfRange_iff, ?_, ?_, ?_, ?_⟩
  · rw [parse_eq_error_iff (by simp)]
    constructor
    · rintro ⟨⟩
      rfl
    · rintro rfl
      exact .empty
  · intro w scale hw hscale q hq
    obtain rfl : s = String.ofList w.chars := by rw [hw, String.ofList_toList]
    obtain hout | ⟨q', hq', hamount⟩ := parse_written w hscale
    · rw [hout] at hq
      contradiction
    · obtain rfl : q = q' := Except.ok.inj (hq.symm.trans hq')
      exact hamount
  · exact Scale.names_iff_of_ofSuffix? (by decide +kernel)
  · exact Scale.names_iff_of_ofSuffix? (by decide +kernel)
  · exact Scale.names_iff_of_ofSuffix? (by decide +kernel)

/-- Two points are reported before an unknown suffix, an exponent of more than 32 bits is none, and
`E` is a suffix behind a numeral that starts with its point as well. -/
theorem parse_rejects_exponent :
    parse "1.2.3Zi" = .error (.invalidNumber "1.2.3Zi") ∧
    parse "-5e2147483648" = .error (.unknownSuffix "-5e2147483648" "e2147483648") ∧
    InForm "+.0E" ∧ ∃ q, parse "+.0E" = .ok q ∧ q.format = .decimalSI := by
  have hpoints : Cut "1.2.3Zi".toList .none "1.2.3".toList "Zi".toList :=
    ⟨rfl, by simp [Text.IsSign], by simp, by simp⟩
  have hexponent : Cut "-5e2147483648".toList .minus "5".toList "e2147483648".toList :=
    ⟨rfl, by simp, by simp, by simp⟩
  have hnone : Scale.ofSuffix? "e2147483648".toList = none := by decide +kernel
  have hread : parse "+.0E" = .ok .zero := by decide +kernel
  refine ⟨?_, ?_, ?_, _, hread, rfl⟩
  · exact ((parse_rejects _).2.1 _ (by simp)).2
      (.invalidNumber (by decide) hpoints fun hnumber => absurd hnumber.2 (by decide))
  · refine ((parse_rejects _).2.1 _ (by simp)).2
      (.unknownSuffix hexponent ⟨by simp, by decide⟩ fun scale h => ?_)
    exact Option.some_ne_none scale ((Scale.ofSuffix?_of_names h).symm.trans hnone)
  · exact (parse_rejects _).2.2.1.1 (.inl ⟨_, hread⟩)

end NodeFit.Quantity
