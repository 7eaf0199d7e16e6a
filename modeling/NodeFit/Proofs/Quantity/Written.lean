import NodeFit.Proofs.Text.Decimal
import NodeFit.Quantity.Parser

/-!
# NodeFit.Proofs.Quantity.Written

The written form of quantities: an optional sign, a numeral of decimal digits with
at most one point, and a suffix.

A written quantity determines its parts (`Written.chars_injective`), and reading it
comes down to looking up its suffix and scaling its mantissa (`parse_ofList_chars`).
Any text can be cut in such a way (`exists_cut`), and if its numeral is a number it is
the text of a written quantity (`Cut.exists_written`), as is a text that is read at all
(`exists_written_of_parse`).

`Written` carries what makes the cut unique: digits are digits, one of the two parts around the
point has one, and the suffix does not start with a character that could go on with the numeral.
So later modules never look at characters again.
-/

namespace NodeFit.Quantity

open Text (Sign)

/-! ## Scanning -/

section

variable {p : Char → Bool} {front back : List Char}

/-- A scan stops at the first character that it does not take. -/
theorem takeWhile_append_of_head (hfront : ∀ c ∈ front, p c = true)
    (hback : ∀ c ∈ back.head?, p c = false) : (front ++ back).takeWhile p = front := by
  rw [List.takeWhile_append_of_pos hfront]
  cases back with
  | nil => simp
  | cons c rest => simp [hback c rfl]

/-- What follows a scan starts at the first character that it does not take. -/
theorem dropWhile_append_of_head (hfront : ∀ c ∈ front, p c = true)
    (hback : ∀ c ∈ back.head?, p c = false) : (front ++ back).dropWhile p = back := by
  rw [List.dropWhile_append_of_pos hfront]
  cases back with
  | nil => simp
  | cons c rest => simp [hback c rfl]

end

/-! ## Parts -/

/-- The parts of a written quantity. -/
structure Written where
  sign : Sign
  /-- The digits in front of the point. -/
  whole : List Char
  /-- The digits behind the point, if there is a point. -/
  fraction : Option (List Char)
  suffix : List Char
  isDigit_of_mem_whole : ∀ c ∈ whole, c.isDigit = true
  isDigit_of_mem_fraction : ∀ c ∈ fraction.getD [], c.isDigit = true
  digits_ne_nil : whole ++ fraction.getD [] ≠ []
  /-- The suffix starts where the numeral cannot go on. -/
  suffix_head : ∀ c ∈ suffix.head?, isNumeralChar c = false

namespace Written

/-- All digits of the numeral, without the point. -/
def digits (w : Written) : List Char := w.whole ++ w.fraction.getD []

/-- The number that the digits denote. -/
def mantissa (w : Written) : Nat := Text.natOfDigits w.digits

/-- The count of digits behind the point. -/
def places (w : Written) : Nat := (w.fraction.getD []).length

/-- The characters of the numeral. -/
def numeral (w : Written) : List Char := w.whole ++ w.fraction.elim [] ('.' :: ·)

/-- The characters of the whole. -/
def chars (w : Written) : List Char := w.sign.chars ++ (w.numeral ++ w.suffix)

/-! ## The numeral -/

theorem isNumeralChar_of_isDigit {c : Char} (h : c.isDigit = true) : isNumeralChar c = true := by
  simp [isNumeralChar, h]

theorem ne_point_of_isDigit {c : Char} (h : c.isDigit = true) : c ≠ '.' := by
  intro h
  subst h
  revert h
  decide

/-- A numeral consists of the characters of numerals. -/
theorem isNumeralChar_of_mem_numeral (w : Written) {c : Char} (h : c ∈ w.numeral) :
    isNumeralChar c = true := by
  have hf := w.isDigit_of_mem_fraction
  rcases List.mem_append.1 h with h | h
  · exact isNumeralChar_of_isDigit (w.isDigit_of_mem_whole c h)
  · cases hfr : w.fraction with
    | none => simp [hfr] at h
    | some fraction =>
        rw [hfr] at h hf
        rcases List.mem_cons.1 h with rfl | h
        · rfl
        · exact isNumeralChar_of_isDigit (hf c h)

theorem numeral_ne_nil (w : Written) : w.numeral ≠ [] := by
  have h := w.digits_ne_nil
  intro hn
  obtain ⟨hw, hf⟩ := List.append_eq_nil_iff.1 hn
  cases hfr : w.fraction with
  | none => simp [hw, hfr] at h
  | some fraction => simp [hfr] at hf

/-- The numeral ends where the suffix starts. -/
theorem takeWhile_numeral (w : Written) :
    (w.numeral ++ w.suffix).takeWhile isNumeralChar = w.numeral :=
  takeWhile_append_of_head (fun _ => w.isNumeralChar_of_mem_numeral) w.suffix_head

/-- Behind the numeral stands the suffix. -/
theorem dropWhile_numeral (w : Written) :
    (w.numeral ++ w.suffix).dropWhile isNumeralChar = w.suffix :=
  dropWhile_append_of_head (fun _ => w.isNumeralChar_of_mem_numeral) w.suffix_head

/-- The point ends the whole part. -/
theorem takeWhile_whole (w : Written) : w.numeral.takeWhile (· != '.') = w.whole := by
  have hw : ∀ c ∈ w.whole, (c != '.') = true := fun c h =>
    bne_iff_ne.2 (ne_point_of_isDigit (w.isDigit_of_mem_whole c h))
  rw [numeral, List.takeWhile_append_of_pos hw]
  cases w.fraction <;> simp

/-- Behind the whole part stands the point with the fraction, if there is one. -/
theorem dropWhile_whole (w : Written) :
    w.numeral.dropWhile (· != '.') = w.fraction.elim [] ('.' :: ·) := by
  have hw : ∀ c ∈ w.whole, (c != '.') = true := fun c h =>
    bne_iff_ne.2 (ne_point_of_isDigit (w.isDigit_of_mem_whole c h))
  rw [numeral, List.dropWhile_append_of_pos hw]
  cases w.fraction <;> simp

/-- The places are counted behind the point. -/
theorem places_numeral (w : Written) : Quantity.places w.numeral = w.places := by
  rw [Quantity.places, dropWhile_whole, places]
  cases w.fraction <;> simp

/-- Without the point, a numeral is its digits. -/
theorem filter_isDigit_numeral (w : Written) : w.numeral.filter Char.isDigit = w.digits := by
  have hw := List.filter_eq_self.2 w.isDigit_of_mem_whole
  have hf := List.filter_eq_self.2 w.isDigit_of_mem_fraction
  rw [numeral, digits, List.filter_append, hw]
  cases h : w.fraction with
  | none => simp
  | some fraction =>
      rw [h] at hf
      simpa using hf

/-- A numeral has at most one point. -/
theorem count_point_numeral (w : Written) : w.numeral.count '.' ≤ 1 := by
  have hw : w.whole.count '.' = 0 := List.count_eq_zero.2 fun h =>
    ne_point_of_isDigit (w.isDigit_of_mem_whole _ h) rfl
  have hf : (w.fraction.getD []).count '.' = 0 := List.count_eq_zero.2 fun h =>
    ne_point_of_isDigit (w.isDigit_of_mem_fraction _ h) rfl
  rw [numeral, List.count_append, hw]
  cases h : w.fraction with
  | none => simp
  | some fraction =>
      rw [h] at hf
      simpa using hf

/-! ## The sign -/

/-- The sign is taken off a written quantity. -/
theorem takeSign_chars (w : Written) :
    Text.takeSign w.chars = (w.sign.isMinus, w.numeral ++ w.suffix) := by
  -- A numeral is not empty, and none of its characters is a sign.
  obtain ⟨c, rest, hn⟩ := List.exists_cons_of_ne_nil w.numeral_ne_nil
  have hc : isNumeralChar c = true :=
    w.isNumeralChar_of_mem_numeral (hn ▸ List.mem_cons_self)
  rw [chars, hn]
  refine Text.takeSign_chars_append w.sign (rest ++ w.suffix) ?_
  intro h
  obtain rfl | rfl := h <;> exact absurd hc (by decide)

end Written

/-- **A written quantity determines its parts.** -/
theorem Written.chars_injective {w w' : Written} (h : w.chars = w'.chars) : w = w' := by
  have hsign := w.takeSign_chars
  rw [h, takeSign_chars, Prod.mk.injEq] at hsign
  have hnumeral : w.numeral = w'.numeral := by
    rw [← w.takeWhile_numeral, ← w'.takeWhile_numeral, hsign.2]
  have hsuffix : w.suffix = w'.suffix := by
    rw [← w.dropWhile_numeral, ← w'.dropWhile_numeral, hsign.2]
  have hwhole : w.whole = w'.whole := by
    rw [← w.takeWhile_whole, ← w'.takeWhile_whole, hnumeral]
  have hfraction : w.fraction = w'.fraction := by
    have hd := w.dropWhile_whole
    rw [hnumeral, w'.dropWhile_whole] at hd
    cases hf : w.fraction <;> cases hf' : w'.fraction <;> simp_all
  have hs : w.sign = w'.sign := by
    rw [chars, chars, hnumeral, hsuffix] at h
    exact Sign.chars_injective (List.append_cancel_right h)
  cases w
  cases w'
  simp_all

/-! ## Reading -/

/-- Reading takes a written quantity apart. -/
theorem parse_ofList_chars (w : Written) :
    parse (String.ofList w.chars) =
      parseAmount (String.ofList w.chars) w.sign.isMinus w.numeral w.suffix := by
  have hne : String.ofList w.chars ≠ "" := by
    simp [← String.toList_inj, Written.chars, w.numeral_ne_nil]
  rw [parse, if_neg hne, String.toList_ofList, w.takeSign_chars]
  simp only
  rw [w.takeWhile_numeral, w.dropWhile_numeral]

/-- The numeral of a written quantity is never at fault. -/
theorem digits_numeral (w : Written) :
    ¬(w.numeral.filter Char.isDigit = [] ∨ 1 < w.numeral.count '.') := by
  have := w.count_point_numeral
  rw [w.filter_isDigit_numeral]
  exact not_or.2 ⟨w.digits_ne_nil, by omega⟩

/-- **A written quantity is read** by looking up its suffix and scaling its mantissa. -/
theorem parse_ofList_chars_eq_ok {w : Written} {scale : Scale} {m : Int}
    (hscale : Scale.ofSuffix? w.suffix = some scale)
    (hm : magnitude? .wrapped w.mantissa w.places scale = some m) :
    parse (String.ofList w.chars) = .ok (ofMagnitude w.sign.isMinus m scale.format) := by
  rw [Written.mantissa] at hm
  rw [parse_ofList_chars]
  simp only [parseAmount]
  rw [if_neg (digits_numeral w), hscale, w.filter_isDigit_numeral, w.places_numeral]
  simp only [hm]

/-- A written quantity is out of range when scaling its mantissa leaves the range. -/
theorem parse_ofList_chars_eq_outOfRange {w : Written} {scale : Scale}
    (hscale : Scale.ofSuffix? w.suffix = some scale)
    (hm : magnitude? .wrapped w.mantissa w.places scale = none) :
    parse (String.ofList w.chars) = .error (.outOfRange (String.ofList w.chars)) := by
  rw [Written.mantissa] at hm
  rw [parse_ofList_chars]
  simp only [parseAmount]
  rw [if_neg (digits_numeral w), hscale, w.filter_isDigit_numeral, w.places_numeral]
  simp only [hm]

/-- A written quantity is read in no other way. -/
theorem exists_scale_of_parse {w : Written} {q : Quantity}
    (h : parse (String.ofList w.chars) = .ok q) :
    ∃ (scale : Scale) (m : Int), Scale.ofSuffix? w.suffix = some scale ∧
      magnitude? .wrapped w.mantissa w.places scale = some m ∧
      q = ofMagnitude w.sign.isMinus m scale.format := by
  rw [parse_ofList_chars] at h
  simp only [parseAmount] at h
  rw [if_neg (digits_numeral w), w.filter_isDigit_numeral, w.places_numeral] at h
  split at h
  · contradiction
  · next scale hscale =>
    split at h
    · contradiction
    · next m hm => exact ⟨scale, m, hscale, hm, (Except.ok.inj h).symm⟩

/-- A string of digits with at most one point falls into the digits in front of the
point and those behind it. -/
theorem exists_point {numeral : List Char} (hchars : ∀ c ∈ numeral, isNumeralChar c = true)
    (hpoint : numeral.count '.' ≤ 1) :
    ∃ (whole : List Char) (fraction : Option (List Char)),
      numeral = whole ++ fraction.elim [] ('.' :: ·) ∧
      (∀ c ∈ whole, c.isDigit = true) ∧ ∀ c ∈ fraction.getD [], c.isDigit = true := by
  induction numeral with
  | nil => exact ⟨[], none, by simp⟩
  | cons c rest ih =>
      have hrest : ∀ c ∈ rest, isNumeralChar c = true := fun c h =>
        hchars c (List.mem_cons_of_mem _ h)
      by_cases hc : c = '.'
      · -- The one point: all that follows are digits.
        subst hc
        have hno : '.' ∉ rest := by
          rw [List.count_cons_self] at hpoint
          exact List.count_eq_zero.1 (by omega)
        refine ⟨[], some rest, rfl, by simp, fun c h => ?_⟩
        have hne : c ≠ '.' := fun e => hno (e ▸ h)
        simpa [isNumeralChar, hne] using hrest c h
      · rw [List.count_cons_of_ne hc] at hpoint
        obtain ⟨whole, fraction, happ, hw, hf⟩ := ih hrest hpoint
        have hdigit : c.isDigit = true := by
          simpa [isNumeralChar, hc] using hchars c List.mem_cons_self
        refine ⟨c :: whole, fraction, by rw [happ, List.cons_append], fun d h => ?_, hf⟩
        rcases List.mem_cons.1 h with rfl | h
        · exact hdigit
        · exact hw d h

/-! ## Cutting -/

/-- A text cut into a sign, the longest numeral that follows it, and the rest. -/
structure Cut (text : List Char) (sign : Sign) (numeral suffix : List Char) : Prop where
  eq_append : text = sign.chars ++ (numeral ++ suffix)
  /-- A text starts with no sign only if its first character is none. -/
  not_isSign : sign = .none → ∀ c ∈ (numeral ++ suffix).head?, ¬Text.IsSign c
  numeral : ∀ c ∈ numeral, c.isDigit = true ∨ c = '.'
  suffix_head : ∀ c ∈ suffix.head?, ¬(c.isDigit = true ∨ c = '.')

/-- A numeral with at least one digit and at most one point. -/
def IsNumber (numeral : List Char) : Prop :=
  (∃ c ∈ numeral, c.isDigit = true) ∧ numeral.count '.' ≤ 1

/-- Numerals consist of digits and points. -/
theorem isNumeralChar_iff {c : Char} : isNumeralChar c = true ↔ c.isDigit = true ∨ c = '.' := by
  simp [isNumeralChar]

/-- A numeral is no number if it has no digit or more than one point. -/
theorem not_isNumber_iff {numeral : List Char} :
    ¬IsNumber numeral ↔ numeral.filter Char.isDigit = [] ∨ 1 < numeral.count '.' := by
  simp [IsNumber, List.filter_eq_nil_iff]
  grind

/-- Every text can be cut. -/
theorem exists_cut (text : List Char) : ∃ sign numeral suffix, Cut text sign numeral suffix := by
  obtain ⟨sign, rest, rfl, hhead⟩ := Text.exists_sign text
  have hrest : rest.takeWhile isNumeralChar ++ rest.dropWhile isNumeralChar = rest :=
    List.takeWhile_append_dropWhile
  refine ⟨sign, rest.takeWhile isNumeralChar, rest.dropWhile isNumeralChar, ?_⟩
  constructor
  · rw [hrest]
  · rwa [hrest]
  · exact fun c hc => isNumeralChar_iff.1 (List.all_eq_true.1 List.all_takeWhile c hc)
  · intro c hc
    have hnot := List.head?_dropWhile_not isNumeralChar rest
    rw [Option.mem_def.1 hc] at hnot
    simpa [← isNumeralChar_iff] using hnot

namespace Cut

variable {text numeral suffix : List Char} {sign : Sign}

theorem isNumeralChar_of_mem (h : Cut text sign numeral suffix) :
    ∀ c ∈ numeral, isNumeralChar c = true :=
  fun c hc => isNumeralChar_iff.2 (h.numeral c hc)

theorem isNumeralChar_head? (h : Cut text sign numeral suffix) :
    ∀ c ∈ suffix.head?, isNumeralChar c = false :=
  fun c hc => Bool.eq_false_iff.2 fun hchar => h.suffix_head c hc (isNumeralChar_iff.1 hchar)

/-- **A text is read by its parts.** -/
theorem parse_eq {s : String} (hne : s ≠ "") (h : Cut s.toList sign numeral suffix) :
    parse s = parseAmount s sign.isMinus numeral suffix := by
  rw [parse, if_neg hne, h.eq_append, Text.takeSign_append h.not_isSign]
  simp only
  rw [takeWhile_append_of_head h.isNumeralChar_of_mem h.isNumeralChar_head?,
    dropWhile_append_of_head h.isNumeralChar_of_mem h.isNumeralChar_head?]

/-- A cut text whose numeral is a number is the text of a written quantity. -/
theorem exists_written (h : Cut text sign numeral suffix) (hnumber : IsNumber numeral) :
    ∃ w : Written, w.chars = text ∧ w.sign = sign ∧ w.suffix = suffix := by
  obtain ⟨⟨digit, hmem, hdigit⟩, hpoint⟩ := hnumber
  obtain ⟨whole, fraction, rfl, hw, hf⟩ := exists_point h.isNumeralChar_of_mem hpoint
  have hne : whole ++ fraction.getD [] ≠ [] := by
    intro hnil
    obtain ⟨rfl, hfraction⟩ := List.append_eq_nil_iff.1 hnil
    cases fraction with
    | none => simp at hmem
    | some fraction =>
        obtain rfl : fraction = [] := hfraction
        obtain rfl : digit = '.' := by simpa using hmem
        exact absurd hdigit (by decide)
  exact ⟨⟨sign, whole, fraction, suffix, hw, hf, hne, h.isNumeralChar_head?⟩,
    h.eq_append.symm, rfl, rfl⟩

end Cut

/-- **A text that reads as a quantity is the text of a written quantity.** -/
theorem exists_written_of_parse {s : String} {q : Quantity} (h : parse s = .ok q) :
    ∃ w : Written, w.chars = s.toList := by
  have hne : s ≠ "" := by
    rintro rfl
    contradiction
  obtain ⟨sign, numeral, suffix, hcut⟩ := exists_cut s.toList
  rw [hcut.parse_eq hne, parseAmount] at h
  split at h
  · contradiction
  · next hnumber =>
    rw [← not_isNumber_iff, Classical.not_not] at hnumber
    obtain ⟨w, hw, -⟩ := hcut.exists_written hnumber
    exact ⟨w, hw⟩

end NodeFit.Quantity
