import NodeFit.Proofs.Conditional

/-!
# NodeFit.Proofs.Conditional.RoundTrip

Conditionals are read back from their texts.

A conditional that was read has parts that fit together again: its call is one word that is cut
at the same bracket, and its literal is one word of the same kind (`Conditional.Regular`).  These
are all that reading a written conditional needs, so that a text and the conditional it is read
as, written out, mean the same (`Conditional.parse_text_of_parse`).

A conditional that is put together from parts need not be regular: with an opening bracket in the
name of its function, a blank in its property, or a digit string that is kept as text, it would be
read as another one or not at all.  None of these comes from a text.
-/

namespace NodeFit

/-! ## Literals -/

namespace Literal

/-- A literal is written as one word, and read from it again. -/
structure Regular (literal : Literal) : Prop where
  isWord : Text.IsWord literal.text.toList
  ofToken_text : ofToken literal.text.toList = literal

/-- **A literal that was read is regular**: an integer may be written in another way than it was,
but it is one word and still fits. -/
theorem regular_ofToken {token : List Char} (h : Text.IsWord token) : (ofToken token).Regular := by
  cases hliteral : ofToken token with
  | integer n =>
      obtain ⟨-, hfits⟩ := Text.readSigned?_eq_some_iff.1 (ofToken_eq_integer_iff.1 hliteral)
      constructor
      · rw [text, Text.toList_decimal]
        exact Text.isWord_intDigits n
      · rw [text, Text.toList_decimal, ofToken_intDigits hfits]
  | quantity written =>
      obtain ⟨-, rfl⟩ := ofToken_eq_quantity_iff.1 hliteral
      constructor
      · rwa [text, String.toList_ofList]
      · rw [text, String.toList_ofList, hliteral]

end Literal

/-! ## Conditionals -/

namespace Conditional

/-- The parts of a conditional can be told apart when it is written. -/
structure Regular (c : Conditional) : Prop where
  function : '(' ∉ c.function.toList
  isWord_call : Text.IsWord (c.function ++ "(" ++ c.property ++ ")").toList
  literal : c.literal.Regular

/-- The call that the short form leaves out is a word like the others. -/
theorem isWord_of_mem_completed {words : List (List Char)} (h : ∀ word ∈ words, Text.IsWord word) :
    ∀ word ∈ completed words, Text.IsWord word := by
  unfold completed
  split
  · have hdefault : Text.IsWord defaultCall := ⟨by decide, Text.not_isBlank_of_any (by decide)⟩
    exact List.forall_mem_cons.2 ⟨hdefault, h⟩
  · exact h

/-- **A conditional that was read is regular.** -/
theorem regular_of_parse {text : String} {c : Conditional} (h : parse text = .ok c) :
    c.Regular := by
  obtain ⟨call, operator, literal, hwords, -, hcall, hliteral⟩ := parse_eq_ok_iff.1 h
  obtain ⟨hfunction, hcall⟩ := splitCall?_eq_some_iff.1 hcall
  have hword : ∀ word ∈ [call, operator, literal], Text.IsWord word := by
    rw [← hwords]
    exact isWord_of_mem_completed fun word => Text.isWord_of_mem_words
  have hchars : (c.function ++ "(" ++ c.property ++ ")").toList = call := by
    rw [hcall]
    simp
  refine ⟨hfunction, hchars ▸ hword call (by simp), ?_⟩
  rw [hliteral]
  exact Literal.regular_ofToken (hword literal (by simp))

/-- **A regular conditional is read back from its text.** -/
theorem Regular.parse_eq {c : Conditional} (h : c.Regular) : parse c.text = .ok c := by
  rw [text, parse_written c.operator h.function h.isWord_call h.literal.isWord,
    h.literal.ofToken_text]

/-- **Writing and reading a conditional are inverse.**  A text that is read as a conditional and
the conditional as it is written are read alike, and have the same truth value or the same
problem over all nodes. -/
theorem parse_text_of_parse {text : String} {c : Conditional} (h : parse text = .ok c) :
    parse c.text = .ok c ∧
    (parse c.text).map Conditional.text = .ok c.text ∧
    ∀ nodes, (evaluateConditional text nodes).mapError ConditionalError.problem =
      (evaluateConditional c.text nodes).mapError ConditionalError.problem := by
  have hback := (regular_of_parse h).parse_eq
  refine ⟨hback, by rw [hback]; rfl, fun nodes => ?_⟩
  rw [evaluateConditional_of_parse h, evaluateConditional_of_parse hback]
  cases c.evaluate nodes <;> rfl

/-- The name of the function may be a bracket, and a number may be too large for an integer. -/
theorem parse_text_of_parse_bracket :
    Conditional.parse ")() === +007" = .ok ⟨")", "", .equal, .integer 7⟩ ∧
    Conditional.parse ")() == 7" = .ok ⟨")", "", .equal, .integer 7⟩ ∧
    Conditional.parse "> 9223372036854775808" =
      .ok ⟨"count", "", .greater, .quantity "9223372036854775808"⟩ ∧
    Conditional.parse "count() > 9223372036854775808" =
      .ok ⟨"count", "", .greater, .quantity "9223372036854775808"⟩ ∧
    ∀ nodes, (evaluateConditional "> 9223372036854775808" nodes).mapError
        ConditionalError.problem =
      (evaluateConditional "count() > 9223372036854775808" nodes).mapError
        ConditionalError.problem := by
  have hbracket : Conditional.parse ")() === +007" = .ok ⟨")", "", .equal, .integer 7⟩ := by
    decide +kernel
  have hshort : Conditional.parse "> 9223372036854775808" =
      .ok ⟨"count", "", .greater, .quantity "9223372036854775808"⟩ := by
    decide +kernel
  have htext : Conditional.text ⟨")", "", .equal, .integer 7⟩ = ")() == 7" := by decide
  obtain ⟨hback, -, heval⟩ := parse_text_of_parse hshort
  exact ⟨hbracket, htext ▸ (parse_text_of_parse hbracket).1, hshort, hback, heval⟩

end Conditional

end NodeFit
