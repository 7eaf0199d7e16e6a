import NodeFit.Proofs.Text.Decimal
import NodeFit.Proofs.Text.Words
import NodeFit.Quantity.Parser

/-!
# NodeFit.Proofs.Quantity.Suffix

Which suffix names which scale.

`Scale.Names` lists the suffixes that there are.  Looking a suffix up succeeds
exactly for those, with the scale that is named (`Scale.ofSuffix?_eq_some_iff`), so
that no suffix names two scales: the exponent form contains a digit, which no
suffix of the tables does.

`Scale.InFamily` says in which family an amount with such a suffix is printed again.  It goes by
the kind of the suffix alone: suffixes for parts and for whole units, and no suffix at all, are
decimal; `Ki` and its like are binary; an exponent is an exponent, also where it is zero.
-/

namespace NodeFit.Quantity.Scale

open Text (Sign)

/-- What the characters of a suffix name. -/
inductive Names : Scale → List Char → Prop where
  | binary {power : Nat} {text : String} :
      (power, text) ∈ [(10, "Ki"), (20, "Mi"), (30, "Gi"), (40, "Ti"), (50, "Pi"), (60, "Ei")] →
      Names (.binary power) text.toList
  | decimal {power : Int} {text : String} :
      (power, text) ∈ [(-9, "n"), (-6, "u"), (-3, "m"), (0, ""), (3, "k"), (6, "M"), (9, "G"),
        (12, "T"), (15, "P"), (18, "E")] →
      Names (.decimal power) text.toList
  | exponent {marker : Char} {sign : Sign} {digits : List Char} {power : Int} :
      marker = 'e' ∨ marker = 'E' → Text.isNumeral digits = true →
      power = sign.apply (Text.natOfDigits digits) →
      -2147483648 ≤ power → power ≤ 2147483647 →
      Names (.exponent power) (marker :: (sign.chars ++ digits))

/-- Suffixes of one kind make one family of formats. -/
inductive InFamily : Scale → QuantityFormat → Prop where
  | binary (power : Nat) : InFamily (.binary power) .binarySI
  | decimal (power : Int) : InFamily (.decimal power) .decimalSI
  | exponent (power : Int) : InFamily (.exponent power) .decimalExponent

/-- The family that the parser gives a scale is that of its kind of suffix. -/
theorem inFamily_format (scale : Scale) : scale.InFamily scale.format := by
  cases scale with
  | binary power => exact .binary power
  | decimal power => exact .decimal power
  | exponent power => exact .exponent power

/-! ## The tables -/

section Tables

variable {α : Type} {suffixes : List (α × String)} {text : String}

/-- A text that stands in no entry of a table is not found. -/
theorem find?_eq_none (h : ∀ entry ∈ suffixes, entry.2 ≠ text) : find? suffixes text = none := by
  rw [find?, Option.map_eq_none_iff, List.find?_eq_none]
  exact fun entry hentry => by simpa using h entry hentry

/-- What is found in a table stands in it. -/
theorem mem_of_find? {power : α} (h : find? suffixes text = some power) :
    (power, text) ∈ suffixes := by
  obtain ⟨entry, hfind, rfl⟩ := Option.map_eq_some_iff.1 h
  have htext : entry.2 = text := by simpa using List.find?_some hfind
  exact htext ▸ List.mem_of_find?_eq_some hfind

/-- A table whose texts are free of digits has nothing for an exponent. -/
theorem find?_of_isDigit (free : ∀ entry ∈ suffixes, entry.2.toList.any Char.isDigit = false)
    {c : Char} (hmem : c ∈ text.toList) (hc : c.isDigit = true) : find? suffixes text = none := by
  refine find?_eq_none fun entry hentry htext => ?_
  have hany : text.toList.any Char.isDigit = true := List.any_eq_true.2 ⟨c, hmem, hc⟩
  rw [← htext, free entry hentry] at hany
  contradiction

end Tables

/-! ## The lookup -/

/-- The exponent form is a letter and a signed number of 32 bits. -/
theorem ofExponent?_eq_some {suffix : List Char} {scale : Scale}
    (h : ofExponent? suffix = some scale) : ∃ (marker : Char) (rest : List Char) (power : Int),
      suffix = marker :: rest ∧ (marker = 'e' ∨ marker = 'E') ∧
      Text.readSigned? 32 rest = some power ∧ scale = .exponent power := by
  unfold ofExponent? at h
  split at h
  · obtain ⟨power, hread, rfl⟩ := Option.map_eq_some_iff.1 h
    exact ⟨_, _, power, rfl, .inl rfl, hread, rfl⟩
  · obtain ⟨power, hread, rfl⟩ := Option.map_eq_some_iff.1 h
    exact ⟨_, _, power, rfl, .inr rfl, hread, rfl⟩
  · contradiction

/-- The decimal suffixes are those for parts, those for whole units, and none. -/
theorem names_decimal {power : Int} {text : String}
    (h : (power, text) ∈
      partSuffixes ++ (0, "") :: wholeSuffixes.map fun entry => ((entry.1 : Int), entry.2)) :
    (Scale.decimal power).Names text.toList :=
  .decimal h

/-- A suffix with a digit in it stands in no table. -/
theorem ofSuffix?_of_isDigit {suffix : List Char} {c : Char} (hmem : c ∈ suffix)
    (hc : c.isDigit = true) : ofSuffix? suffix = ofExponent? suffix := by
  have htext : c ∈ (String.ofList suffix).toList := by rwa [String.toList_ofList]
  have hempty : (String.ofList suffix).isEmpty = false := by
    simpa using List.ne_nil_of_mem hmem
  have hbinary : find? binarySuffixes _ = none := find?_of_isDigit (by decide) htext hc
  have hpart : find? partSuffixes _ = none := find?_of_isDigit (by decide) htext hc
  have hwhole : find? wholeSuffixes _ = none := find?_of_isDigit (by decide) htext hc
  simp only [ofSuffix?, hempty, hbinary, hpart, hwhole]
  rfl

/-- The suffixes for parts of a unit name negative powers of ten. -/
theorem names_part {power : Int} {text : String} (h : (power, text) ∈ partSuffixes) :
    (Scale.decimal power).Names text.toList :=
  names_decimal (List.mem_append_left _ h)

/-- The lack of a suffix names one unit. -/
theorem names_none : (Scale.decimal 0).Names "".toList :=
  names_decimal (List.mem_append_right _ List.mem_cons_self)

/-- The suffixes for whole units name positive powers of ten. -/
theorem names_whole {power : Nat} {text : String} (h : (power, text) ∈ wholeSuffixes) :
    (Scale.decimal power).Names text.toList := by
  refine names_decimal (List.mem_append_right _ (List.mem_cons_of_mem _ ?_))
  exact List.mem_map_of_mem (f := fun entry : Nat × String => ((entry.1 : Int), entry.2)) h

/-- The exponent form as it is written. -/
theorem names_written {power : Int} (h : Text.fitsSigned 32 power = true) :
    (Scale.exponent power).Names ("e" ++ Text.decimal power).toList := by
  obtain ⟨lower, upper⟩ := Text.fitsSigned_int32.1 h
  have htext : ("e" ++ Text.decimal power).toList =
      'e' :: ((Sign.ofInt power).chars ++ Text.natDigits power.natAbs) := by
    simp [Text.decimal, Text.intDigits_eq]
  rw [htext]
  refine .exponent (.inl rfl) (Text.isNumeral_natDigits _) ?_ lower upper
  rw [Text.natOfDigits_natDigits, Sign.apply_natAbs]

/-- What is looked up is the scale that the suffix names. -/
theorem names_of_ofSuffix? {suffix : List Char} {scale : Scale}
    (h : ofSuffix? suffix = some scale) : scale.Names suffix := by
  obtain ⟨text, rfl⟩ : ∃ text : String, suffix = text.toList :=
    ⟨String.ofList suffix, String.toList_ofList.symm⟩
  simp only [ofSuffix?, String.ofList_toList] at h
  split at h
  · next hempty =>
    obtain rfl : text = "" := by simpa using hempty
    cases h
    exact names_none
  · simp only [Option.orElse_eq_orElse, Option.orElse_eq_or, Option.or_eq_some_iff,
      Option.map_eq_some_iff] at h
    obtain ⟨power, hfind, rfl⟩ | ⟨-, ⟨power, hfind, rfl⟩ | ⟨-, ⟨power, hfind, rfl⟩ |
      ⟨-, hexponent⟩⟩⟩ := h
    · exact .binary (mem_of_find? hfind)
    · exact names_part (mem_of_find? hfind)
    · exact names_whole (mem_of_find? hfind)
    · obtain ⟨marker, rest, power, htext, hmarker, hread, rfl⟩ := ofExponent?_eq_some hexponent
      obtain ⟨hint, hfits⟩ := Text.readSigned?_eq_some_iff.1 hread
      obtain ⟨sign, digits, rfl, hdigits, hpower⟩ := Text.readInt?_eq_some_iff.1 hint
      obtain ⟨lower, upper⟩ := Text.fitsSigned_int32.1 hfits
      rw [htext]
      exact .exponent hmarker hdigits hpower lower upper

/-- Every suffix that names a scale is looked up: no table hides an entry of another, and
none hides an exponent. -/
theorem ofSuffix?_of_names {suffix : List Char} {scale : Scale} (h : scale.Names suffix) :
    ofSuffix? suffix = some scale := by
  cases h with
  | @binary power text h =>
      have htable : ∀ entry ∈ binarySuffixes,
          ofSuffix? entry.2.toList = some (.binary entry.1) := by decide +kernel
      exact htable (power, text) h
  | @decimal power text h =>
      have htable : ∀ entry ∈ [(-9, "n"), (-6, "u"), (-3, "m"), (0, ""), (3, "k"), (6, "M"),
          (9, "G"), (12, "T"), (15, "P"), (18, "E")],
          ofSuffix? entry.2.toList = some (.decimal entry.1) := by decide +kernel
      exact htable (power, text) h
  | @exponent marker sign digits power hmarker hdigits hpower lower upper =>
      obtain ⟨hne, hall⟩ := Text.isNumeral_iff.1 hdigits
      obtain ⟨c, rest, rfl⟩ := List.exists_cons_of_ne_nil hne
      have hmem : c ∈ marker :: (sign.chars ++ c :: rest) := by simp
      have hread : Text.readSigned? 32 (sign.chars ++ c :: rest) = some power :=
        Text.readSigned?_eq_some_iff.2
          ⟨Text.readInt?_eq_some_iff.2 ⟨sign, _, rfl, hdigits, hpower⟩,
            Text.fitsSigned_int32.2 ⟨lower, upper⟩⟩
      rw [ofSuffix?_of_isDigit hmem (hall c List.mem_cons_self)]
      rcases hmarker with rfl | rfl <;> rw [ofExponent?, hread] <;> rfl

/-- **Suffixes are looked up by name**, and each names one scale. -/
theorem ofSuffix?_eq_some_iff {suffix : List Char} {scale : Scale} :
    ofSuffix? suffix = some scale ↔ scale.Names suffix :=
  ⟨names_of_ofSuffix?, ofSuffix?_of_names⟩

/-- No suffix could go on with the numeral in front of it. -/
theorem Names.isNumeralChar_head? {suffix : List Char} {scale : Scale} (h : scale.Names suffix) :
    ∀ c ∈ suffix.head?, isNumeralChar c = false := by
  have hhead : suffix.head?.any isNumeralChar = false := by
    cases h with
    | @binary power text h =>
        have htable : ∀ entry ∈ binarySuffixes,
            entry.2.toList.head?.any isNumeralChar = false := by decide
        exact htable (power, text) h
    | @decimal power text h =>
        have htable : ∀ entry ∈ [(-9, "n"), (-6, "u"), (-3, "m"), (0, ""), (3, "k"), (6, "M"),
            (9, "G"), (12, "T"), (15, "P"), (18, "E")],
            entry.2.toList.head?.any isNumeralChar = false := by decide
        exact htable (power, text) h
    | exponent hmarker => rcases hmarker with rfl | rfl <;> rfl
  intro c hc
  rw [Option.mem_def.1 hc] at hhead
  exact hhead

/-- No suffix has a blank in it. -/
theorem Names.not_isBlank {suffix : List Char} {scale : Scale} (h : scale.Names suffix) :
    ∀ c ∈ suffix, Text.isBlank c = false := by
  cases h with
  | @binary power text h =>
      have htable : ∀ entry ∈ binarySuffixes, entry.2.toList.any Text.isBlank = false := by decide
      exact Text.not_isBlank_of_any (htable (power, text) h)
  | @decimal power text h =>
      have htable : ∀ entry ∈ [(-9, "n"), (-6, "u"), (-3, "m"), (0, ""), (3, "k"), (6, "M"),
          (9, "G"), (12, "T"), (15, "P"), (18, "E")], entry.2.toList.any Text.isBlank = false := by
        decide
      exact Text.not_isBlank_of_any (htable (power, text) h)
  | @exponent marker sign digits power hmarker hdigits =>
      intro c hc
      rcases List.mem_cons.1 hc with rfl | hc
      · rcases hmarker with rfl | rfl <;> rfl
      · rcases List.mem_append.1 hc with hc | hc
        · exact sign.not_isBlank c hc
        · exact Text.isBlank_of_isDigit ((Text.isNumeral_iff.1 hdigits).2 c hc)

end NodeFit.Quantity.Scale
