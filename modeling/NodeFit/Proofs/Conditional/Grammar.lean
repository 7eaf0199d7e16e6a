import NodeFit.Proofs.Conditional

/-!
# NodeFit.Proofs.Conditional.Grammar

The grammar of conditionals.

How a text is read depends on its words alone, not on the blanks around them.  `Writes` says
which words write a conditional and which one, `Faults` what is wrong with other words, and
every list of words comes under exactly one of them (`writes_or_faults`).  A text is read
accordingly (`parse_grammar`).

* An operator is one of five tokens for the five relations, and equality has two more
  (`ComparisonOperator.spellings`).
* A literal is an integer of 64 bits with or without a sign (`Literal.IsInteger`), and any
  other token is kept as text (`Literal.Denotes`).
* Of the faults the number of words comes first, then the operator, and last the call.
-/

namespace NodeFit

open Text (Sign)

/-! ## Operators and literals -/

namespace ComparisonOperator

/-- The tokens that an operator can be written with. -/
def spellings : ComparisonOperator → List String
  | equal => ["=", "==", "==="]
  | less => ["<"]
  | greater => [">"]
  | lessOrEqual => ["<="]
  | greaterOrEqual => [">="]

/-- **Operators are read from their spellings**, and from no other token. -/
theorem ofToken?_eq_some_iff {token : String} {op : ComparisonOperator} :
    ofToken? token = some op ↔ token ∈ op.spellings := by
  constructor
  · intro h
    unfold ofToken? at h
    split at h <;> cases h <;> decide
  · have hall : ∀ token ∈ op.spellings, ofToken? token = some op := by cases op <;> decide
    exact hall token

/-- A token is no operator when it is none of the spellings. -/
theorem ofToken?_eq_none_iff {token : String} :
    ofToken? token = none ↔ ∀ op : ComparisonOperator, token ∉ op.spellings := by
  simp only [Option.eq_none_iff_forall_ne_some, ne_eq, ofToken?_eq_some_iff]

end ComparisonOperator

namespace Literal

variable {token : List Char} {n : Int} {literal : Literal}

/-- A token that is an integer of 64 bits: digits, with or without a sign. -/
def IsInteger (token : List Char) (n : Int) : Prop :=
  ∃ (sign : Sign) (digits : List Char), token = sign.chars ++ digits ∧ digits ≠ [] ∧
    (∀ c ∈ digits, c.isDigit = true) ∧ n = sign.apply (Text.natOfDigits digits) ∧
    -9223372036854775808 ≤ n ∧ n ≤ 9223372036854775807

/-- The literal that a token denotes. -/
inductive Denotes : List Char → Literal → Prop where
  | integer {token : List Char} {n : Int} : IsInteger token n → Denotes token (.integer n)
  | quantity {token : List Char} : (∀ n, ¬IsInteger token n) →
      Denotes token (.quantity (String.ofList token))

/-- The tokens that are integers are those that are read as one of 64 bits. -/
theorem isInteger_iff : IsInteger token n ↔ Text.readSigned? 64 token = some n := by
  simp only [Text.readSigned?_eq_some_iff, Text.readInt?_eq_some_iff, Text.isNumeral_iff,
    Text.fitsSigned_int64]
  constructor
  · rintro ⟨sign, digits, htoken, hne, hdigits, hn, hrange⟩
    exact ⟨⟨sign, digits, htoken, ⟨hne, hdigits⟩, hn⟩, hrange⟩
  · rintro ⟨⟨sign, digits, htoken, ⟨hne, hdigits⟩, hn⟩, hrange⟩
    exact ⟨sign, digits, htoken, hne, hdigits, hn, hrange⟩

/-- **Each token denotes one literal**, the one that it is read as. -/
theorem denotes_iff : Denotes token literal ↔ ofToken token = literal := by
  constructor
  · rintro (hinteger | hno)
    · exact ofToken_eq_integer_iff.2 (isInteger_iff.1 hinteger)
    · refine ofToken_eq_quantity_iff.2 ⟨?_, rfl⟩
      exact Option.eq_none_iff_forall_ne_some.2 fun n hn => hno n (isInteger_iff.2 hn)
  · rintro rfl
    cases h : ofToken token with
    | integer n => exact .integer (isInteger_iff.2 (ofToken_eq_integer_iff.1 h))
    | quantity text =>
        obtain ⟨hnone, rfl⟩ := ofToken_eq_quantity_iff.1 h
        refine .quantity fun n hn => ?_
        rw [isInteger_iff, hnone] at hn
        contradiction

end Literal

namespace Conditional

/-! ## Words -/

/-- The conditional that some words write.  A call is cut at its first opening bracket and at the
closing one that ends it; without a call, the nodes are counted. -/
inductive Writes : List (List Char) → Conditional → Prop where
  | full {function property operator token : List Char} {op : ComparisonOperator}
      {literal : Literal} : '(' ∉ function → String.ofList operator ∈ op.spellings →
      literal.Denotes token →
      Writes [function ++ '(' :: property ++ [')'], operator, token]
        ⟨String.ofList function, String.ofList property, op, literal⟩
  | short {operator token : List Char} {c : Conditional} :
      Writes ["count()".toList, operator, token] c → Writes [operator, token] c

/-- What is wrong with words that write no conditional: first their number, then the operator,
and last the call. -/
inductive Faults : List (List Char) → ConditionalProblem → Prop where
  | malformed {words : List (List Char)} : words.length ≠ 2 → words.length ≠ 3 →
      Faults words .malformed
  | unknownOperator {call operator token : List Char} :
      (∀ op : ComparisonOperator, String.ofList operator ∉ op.spellings) →
      Faults [call, operator, token] (.unknownOperator (String.ofList operator))
  | pattern {call operator token : List Char} {op : ComparisonOperator} :
      String.ofList operator ∈ op.spellings →
      (∀ function property : List Char, '(' ∉ function →
        call ≠ function ++ '(' :: property ++ [')']) →
      Faults [call, operator, token] .pattern
  | short {operator token : List Char} {problem : ConditionalProblem} :
      Faults ["count()".toList, operator, token] problem → Faults [operator, token] problem

section

variable {words : List (List Char)} {c : Conditional} {problem : ConditionalProblem}

/-- The short form stands for the call that counts the nodes. -/
theorem ofWords_short (operator token : List Char) :
    ofWords (completed [operator, token]) =
      ofWords (completed ["count()".toList, operator, token]) :=
  rfl

/-- Words that write a conditional are read as that conditional. -/
theorem Writes.ofWords_eq (h : Writes words c) : ofWords (completed words) = .ok c := by
  induction h with
  | @full function property operator token op literal hfunction hop hliteral =>
      obtain rfl := Literal.denotes_iff.1 hliteral
      simp only [completed, ofWords, ComparisonOperator.ofToken?_eq_some_iff.2 hop,
        splitCall?_call property hfunction]
  | short _ ih => rwa [ofWords_short]

/-- Words that are at fault are refused for that fault. -/
theorem Faults.ofWords_eq (h : Faults words problem) :
    ofWords (completed words) = .error problem := by
  induction h with
  | @malformed words htwo hthree =>
      rcases words with _ | ⟨_, _ | ⟨_, _ | ⟨_, _ | _⟩⟩⟩
      · rfl
      · rfl
      · exact absurd rfl htwo
      · exact absurd rfl hthree
      · rfl
  | unknownOperator hop =>
      simp only [completed, ofWords, ComparisonOperator.ofToken?_eq_none_iff.2 hop]
  | @pattern call operator token op hop hcall =>
      have hsplit : splitCall? call = none := by
        refine Option.eq_none_iff_forall_ne_some.2 ?_
        rintro ⟨function, property⟩ h
        obtain ⟨hfunction, hcall'⟩ := splitCall?_eq_some_iff.1 h
        exact hcall function property hfunction hcall'
      simp only [completed, ofWords, ComparisonOperator.ofToken?_eq_some_iff.2 hop, hsplit]
  | short _ ih => rwa [ofWords_short]

/-- Three words are a conditional, or the operator or else the call is at fault. -/
theorem writes_or_faults_full (call operator token : List Char) :
    (∃ c, Writes [call, operator, token] c) ∨ ∃ problem, Faults [call, operator, token] problem := by
  by_cases hop : ∃ op : ComparisonOperator, String.ofList operator ∈ op.spellings
  · obtain ⟨op, hop⟩ := hop
    by_cases hcall : ∃ function property, '(' ∉ function ∧
        call = function ++ '(' :: property ++ [')']
    · obtain ⟨function, property, hfunction, rfl⟩ := hcall
      exact .inl ⟨_, .full hfunction hop (Literal.denotes_iff.2 rfl)⟩
    · simp only [not_exists, not_and] at hcall
      exact .inr ⟨_, .pattern hop hcall⟩
  · simp only [not_exists] at hop
    exact .inr ⟨_, .unknownOperator hop⟩

/-- **Words write a conditional or are at fault**, whatever they are. -/
theorem writes_or_faults (words : List (List Char)) :
    (∃ c, Writes words c) ∨ ∃ problem, Faults words problem := by
  by_cases htwo : words.length = 2
  · obtain ⟨operator, token, rfl⟩ := List.length_eq_two.1 htwo
    exact (writes_or_faults_full "count()".toList operator token).imp
      (fun ⟨c, hc⟩ => ⟨c, .short hc⟩) (fun ⟨problem, hproblem⟩ => ⟨problem, .short hproblem⟩)
  · by_cases hthree : words.length = 3
    · obtain ⟨call, operator, token, rfl⟩ := List.length_eq_three.1 hthree
      exact writes_or_faults_full call operator token
    · exact .inr ⟨_, .malformed htwo hthree⟩

/-- Words are read as a conditional exactly if they write it. -/
theorem ofWords_eq_ok_iff : ofWords (completed words) = .ok c ↔ Writes words c := by
  refine ⟨fun h => ?_, Writes.ofWords_eq⟩
  obtain ⟨c', hc'⟩ | ⟨problem, hproblem⟩ := writes_or_faults words
  · obtain rfl : c = c' := Except.ok.inj (h.symm.trans hc'.ofWords_eq)
    exact hc'
  · rw [hproblem.ofWords_eq] at h
    contradiction

/-- Words are refused with a problem exactly if it is their fault. -/
theorem ofWords_eq_error_iff : ofWords (completed words) = .error problem ↔ Faults words problem := by
  refine ⟨fun h => ?_, Faults.ofWords_eq⟩
  obtain ⟨c, hc⟩ | ⟨problem', hproblem'⟩ := writes_or_faults words
  · rw [hc.ofWords_eq] at h
    contradiction
  · obtain rfl : problem = problem' := Except.error.inj (h.symm.trans hproblem'.ofWords_eq)
    exact hproblem'

/-- The words that write a conditional, without the conditional. -/
theorem exists_writes_iff :
    (∃ c, Writes words c) ↔ ∃ (operator token : List Char) (op : ComparisonOperator),
      String.ofList operator ∈ op.spellings ∧
      (words = [operator, token] ∨ ∃ function property : List Char, '(' ∉ function ∧
        words = [function ++ '(' :: property ++ [')'], operator, token]) := by
  constructor
  · rintro ⟨c, hc⟩
    induction hc with
    | full hfunction hop _ => exact ⟨_, _, _, hop, .inr ⟨_, _, hfunction, rfl⟩⟩
    | short _ ih =>
        obtain ⟨operator, token, op, hop, hwords⟩ := ih
        refine ⟨operator, token, op, hop, .inl ?_⟩
        rcases hwords with hwords | ⟨function, property, -, hwords⟩
        · simp at hwords
        · exact (List.cons.inj hwords).2
  · rintro ⟨operator, token, op, hop, rfl | ⟨function, property, hfunction, rfl⟩⟩
    · have hcount : Writes ["count()".toList, operator, token] _ :=
        @Writes.full "count".toList [] operator token op _ (by decide) hop
          (Literal.denotes_iff.2 rfl)
      exact ⟨_, .short hcount⟩
    · exact ⟨_, .full hfunction hop (Literal.denotes_iff.2 rfl)⟩

end

/-- **How a text is read**: by its words alone, however they are spaced.  It is a conditional
exactly when they are an operator and a literal, or a call, an operator and a literal, and then it
is the one that they write; the short form is read as the call that counts the nodes.  Any other
text has the fault of its words. -/
theorem parse_grammar (text : String) :
    ∃ words : List (List Char), Text.Spaced text.toList words ∧
      (∀ other : String, Text.Spaced other.toList words → parse other = parse text) ∧
      ((∃ c, parse text = .ok c) ↔ ∃ (operator token : List Char) (op : ComparisonOperator),
        String.ofList operator ∈ op.spellings ∧
        (words = [operator, token] ∨ ∃ function property : List Char, '(' ∉ function ∧
          words = [function ++ '(' :: property ++ [')'], operator, token])) ∧
      (∀ c, parse text = .ok c ↔ Writes words c) ∧
      (∀ operator token, words = [operator, token] → ∀ full : String,
        Text.Spaced full.toList ["count()".toList, operator, token] →
        parse full = parse text) ∧
      ∀ problem, parse text = .error problem ↔ Faults words problem := by
  have hread : ∀ {other : String} {words : List (List Char)}, Text.Spaced other.toList words →
      parse other = ofWords (completed words) := fun h => by rw [parse, h.words_eq]
  obtain ⟨words, hwords⟩ := Text.exists_spaced text.toList
  refine ⟨words, hwords, fun other hother => ?_, ?_, fun c => ?_, ?_, fun problem => ?_⟩
  · rw [hread hother, hread hwords]
  · rw [← exists_writes_iff]
    simp only [hread hwords, ofWords_eq_ok_iff]
  · rw [hread hwords, ofWords_eq_ok_iff]
  · rintro operator token rfl full hfull
    rw [hread hfull, hread hwords, ofWords_short]
  · rw [hread hwords, ofWords_eq_error_iff]

/-- The property may hold brackets, the blanks may be of any kind, and the operator is looked at
before the call. -/
theorem parse_grammar_brackets :
    Text.Spaced "\u2003max(min(x))\t>=  -007\n".toList
      ["max(min(x))".toList, ">=".toList, "-007".toList] ∧
    parse "\u2003max(min(x))\t>=  -007\n" =
      .ok ⟨"max", "min(x)", .greaterOrEqual, .integer (-7)⟩ ∧
    parse "max(min(x)) >= -007" = parse "\u2003max(min(x))\t>=  -007\n" ∧
    parse "max != 3" = .error (.unknownOperator "!=") := by
  obtain ⟨words, hwords, hspacing, -, hwrites, -⟩ :=
    parse_grammar "\u2003max(min(x))\t>=  -007\n"
  obtain ⟨words', hwords', -, -, -, -, hfaults⟩ := parse_grammar "max != 3"
  obtain rfl : ["max(min(x))".toList, ">=".toList, "-007".toList] = words :=
    Eq.trans (by decide) hwords.words_eq
  obtain rfl : ["max".toList, "!=".toList, "3".toList] = words' :=
    Eq.trans (by decide) hwords'.words_eq
  have hinteger : (Literal.integer (-7)).Denotes "-007".toList :=
    .integer ⟨.minus, "007".toList, rfl, by decide, by simp, by decide, by decide, by decide⟩
  have hcall : Writes ["max(min(x))".toList, ">=".toList, "-007".toList] _ :=
    @Writes.full "max".toList "min(x)".toList ">=".toList "-007".toList .greaterOrEqual _
      (by decide) (by decide) hinteger
  refine ⟨hwords, (hwrites _).2 hcall, hspacing _ (Text.spaced_iff_words.2 (by decide)), ?_⟩
  exact (hfaults _).2 (.unknownOperator fun op => by cases op <;> decide)

end Conditional
end NodeFit
