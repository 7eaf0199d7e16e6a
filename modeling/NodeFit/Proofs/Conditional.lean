import NodeFit.Conditional.Evaluation
import NodeFit.Proofs.Aggregate
import NodeFit.Proofs.Except
import NodeFit.Proofs.Text.Decimal

/-!
# NodeFit.Proofs.Conditional

Conditionals that are written out in full are read part by part, and see no more of an
aggregate than its amount.

A text is a conditional when its words are a call, an operator and a literal
(`Conditional.parse_eq_ok_iff`).  A call is cut at its first opening bracket and at its last
closing one, so that a function without brackets in its name is found again whatever the
property is; a literal is an integer, or kept as it is written.  When a conditional is
evaluated, the suffix family of an amount makes no difference, neither to its truth nor to an
error (`evaluateConditional_congr`).

The statements here are about reading and evaluating one conditional.  The grammar as a whole,
the failures and the meaning of comparisons have modules of their own, which use
`splitCall?_eq_some_iff`, `parse_eq_ok_iff` and `evaluate_eq_ok_iff` in place of the definitions.
-/

namespace NodeFit

/-! ## Literals -/

namespace Literal

variable {token : List Char} {n : Int}

/-- A literal is an integer when it can be read as one of 64 bits, however it is written. -/
theorem ofToken_eq_integer_iff :
    ofToken token = .integer n ↔ Text.readSigned? 64 token = some n := by
  unfold ofToken
  cases Text.readSigned? 64 token <;> simp

/-- Any other literal is kept as it is written. -/
theorem ofToken_eq_quantity_iff {text : String} :
    ofToken token = .quantity text ↔
      Text.readSigned? 64 token = none ∧ String.ofList token = text := by
  unfold ofToken
  cases Text.readSigned? 64 token <;> simp

/-- The digits of an integer of 64 bits are read as the integer. -/
theorem ofToken_intDigits (h : Text.fitsSigned 64 n = true) :
    ofToken (Text.intDigits n) = .integer n :=
  ofToken_eq_integer_iff.2 (Text.readSigned?_intDigits h)

end Literal

namespace Conditional

/-! ## Reading -/

/-- A call falls into its function and its property. -/
theorem splitCall?_call {function : List Char} (property : List Char) (h : '(' ∉ function) :
    splitCall? (function ++ '(' :: property ++ [')']) = some (function, property) := by
  have hp : ∀ c ∈ function, (c != '(') = true := fun c hc => bne_iff_ne.2 fun e => h (e ▸ hc)
  rw [splitCall?, if_pos List.getLast?_concat, List.dropLast_concat,
    List.dropWhile_append_of_pos hp, List.takeWhile_append_of_pos hp]
  simp

/-- **A call is cut** at its first opening bracket and its last closing one. -/
theorem splitCall?_eq_some_iff {call function property : List Char} :
    splitCall? call = some (function, property) ↔
      '(' ∉ function ∧ call = function ++ '(' :: property ++ [')'] := by
  constructor
  · intro h
    unfold splitCall? at h
    split at h
    · next hlast =>
      obtain ⟨inner, rfl⟩ := List.getLast?_eq_some_iff.1 hlast
      rw [List.dropLast_concat] at h
      have hinner : inner.takeWhile (· != '(') ++ inner.dropWhile (· != '(') = inner :=
        List.takeWhile_append_dropWhile
      split at h
      · contradiction
      · next bracket rest hdrop =>
        have hbracket : bracket = '(' := by
          simpa [hdrop] using List.head?_dropWhile_not (· != '(') inner
        obtain ⟨rfl, rfl⟩ := Prod.mk.inj (Option.some.inj h)
        subst hbracket
        refine ⟨fun hmem => ?_, by rw [← hdrop, hinner]⟩
        have hall := List.all_takeWhile (p := (· != '(')) (l := inner)
        simpa using List.all_eq_true.1 hall '(' hmem
    · contradiction
  · rintro ⟨hfunction, rfl⟩
    exact splitCall?_call property hfunction

/-- **A text is a conditional** when its words, completed by the call that the short form leaves
out, are a call, an operator and a literal. -/
theorem parse_eq_ok_iff {text : String} {c : Conditional} :
    parse text = .ok c ↔ ∃ call operator literal,
      completed (Text.words text.toList) = [call, operator, literal] ∧
      ComparisonOperator.ofToken? (String.ofList operator) = some c.operator ∧
      splitCall? call = some (c.function.toList, c.property.toList) ∧
      c.literal = .ofToken literal := by
  obtain ⟨function, property, op, lit⟩ := c
  rw [parse]
  constructor
  · intro h
    unfold ofWords at h
    split at h
    · next call operator literal hwords =>
      split at h
      · contradiction
      · next op' hop =>
        split at h
        · contradiction
        · next f p hcall =>
          cases h
          exact ⟨call, operator, literal, hwords, hop, by simpa using hcall, rfl⟩
    · contradiction
  · rintro ⟨call, operator, literal, hwords, hop, hcall, rfl⟩
    simp [hwords, ofWords, hop, hcall]

theorem isWord_symbol (op : ComparisonOperator) : Text.IsWord op.symbol.toList := by
  cases op <;> exact ⟨by decide, Text.not_isBlank_of_any (by decide)⟩

/-- A call is one word if there is no blank in its names. -/
theorem isWord_call {function property : String}
    (hfunction : ∀ c ∈ function.toList, Text.isBlank c = false)
    (hproperty : ∀ c ∈ property.toList, Text.isBlank c = false) :
    Text.IsWord (function ++ "(" ++ property ++ ")").toList := by
  have hchars : (function ++ "(" ++ property ++ ")").toList =
      function.toList ++ '(' :: (property.toList ++ [')']) := by
    simp
  rw [hchars]
  refine ⟨by simp, fun c hc => ?_⟩
  simp only [List.mem_append, List.mem_cons, List.not_mem_nil, or_false] at hc
  obtain hc | rfl | hc | rfl := hc
  · exact hfunction c hc
  · decide
  · exact hproperty c hc
  · decide

/-- **A conditional that is written out is read** as its parts, the literal being that of
the last word. -/
theorem parse_written {function property literal : String} (op : ComparisonOperator)
    (hfunction : '(' ∉ function.toList)
    (hcall : Text.IsWord (function ++ "(" ++ property ++ ")").toList)
    (hliteral : Text.IsWord literal.toList) :
    parse (function ++ "(" ++ property ++ ") " ++ op.symbol ++ " " ++ literal) =
      .ok ⟨function, property, op, .ofToken literal.toList⟩ := by
  have hchars : (function ++ "(" ++ property ++ ") " ++ op.symbol ++ " " ++ literal).toList =
      (function ++ "(" ++ property ++ ")").toList ++
        ' ' :: (op.symbol.toList ++ ' ' :: literal.toList) := by
    simp
  have hsplit : splitCall? (function ++ "(" ++ property ++ ")").toList =
      some (function.toList, property.toList) := by
    simpa using splitCall?_call property.toList hfunction
  rw [parse, hchars, Text.words_cons hcall, Text.words_cons (isWord_symbol op),
    Text.words_of_isWord hliteral]
  simp only [completed, ofWords, String.ofList_toList, ComparisonOperator.ofToken?_symbol, hsplit]

/-! ## Evaluation -/

/-- A conditional has a truth value when its function is known and the aggregate can be
compared with the literal. -/
theorem evaluate_eq_ok_iff {c : Conditional} {nodes : List ClusterNode} {b : Bool} :
    c.evaluate nodes = .ok b ↔
      ∃ function order, AggregateFunction.ofName? c.function = some function ∧
        c.compareLiteral (aggregate function c.property nodes) = .ok order ∧
        c.operator.holds order = b := by
  simp only [evaluate, actual, bind_eq_ok_iff]
  cases AggregateFunction.ofName? c.function with
  | none => simp
  | some function =>
      simp [pure, Except.pure]

/-- The order of an aggregate against a literal is that of its amount. -/
theorem compareLiteral_congr (c : Conditional) {a b : AggregateValue} (h : a.SameAmount b) :
    c.compareLiteral a = c.compareLiteral b := by
  cases h with
  | count nodes => rfl
  | noValue => rfl
  | quantity hnano =>
      simp only [compareLiteral, compareAmount, Quantity.compare, hnano]

/-- A conditional depends on the nodes through the amounts of its aggregates only. -/
theorem evaluate_congr (c : Conditional) {nodes nodes' : List ClusterNode}
    (h : ∀ function, (aggregate function c.property nodes).SameAmount
      (aggregate function c.property nodes')) :
    c.evaluate nodes = c.evaluate nodes' := by
  unfold evaluate actual
  cases AggregateFunction.ofName? c.function with
  | none => rfl
  | some function =>
      change (c.compareLiteral _ >>= _) = (c.compareLiteral _ >>= _)
      rw [c.compareLiteral_congr (h function)]

end Conditional

/-- A text that is not empty has the truth value of the conditional that it is read as, and
all its errors carry the text. -/
theorem evaluateConditional_of_ne_empty {text : String} (h : text ≠ "")
    (nodes : List ClusterNode) :
    evaluateConditional text nodes =
      (Conditional.parse text >>= fun c => c.evaluate nodes).mapError
        (ConditionalError.mk text) := by
  have hne : ¬text.isEmpty = true := by simpa using h
  rw [evaluateConditional, if_neg hne]
  cases Conditional.parse text >>= fun c => c.evaluate nodes <;> rfl

/-- The empty text is no conditional. -/
theorem Conditional.ne_empty_of_parse {text : String} {c : Conditional}
    (h : parse text = .ok c) : text ≠ "" := by
  have hempty : parse "" = .error .malformed := by decide
  rintro rfl
  simp [hempty] at h

/-- The text of a conditional has the truth value of the conditional. -/
theorem evaluateConditional_of_parse {text : String} {c : Conditional}
    (h : Conditional.parse text = .ok c) (nodes : List ClusterNode) :
    evaluateConditional text nodes = (c.evaluate nodes).mapError (ConditionalError.mk text) := by
  rw [evaluateConditional_of_ne_empty (Conditional.ne_empty_of_parse h), h]
  rfl

/-- **Conditionals see no more of nodes than the amounts of aggregates.** -/
theorem evaluateConditional_congr (text : String) {nodes nodes' : List ClusterNode}
    (h : ∀ function property, (aggregate function property nodes).SameAmount
      (aggregate function property nodes')) :
    evaluateConditional text nodes = evaluateConditional text nodes' := by
  have heval : ∀ c : Conditional, c.evaluate nodes = c.evaluate nodes' := fun c =>
    c.evaluate_congr fun function => h function c.property
  simp only [evaluateConditional, heval]

end NodeFit
