import NodeFit.Proofs.Conditional.Meaning
import NodeFit.Proofs.Quantity.Literal

/-!
# NodeFit.Proofs.Conditional.Failure

When a conditional has no truth value, and why.

A text that is no conditional is at fault itself, whatever the nodes are.  For a conditional
there are four more reasons, and where several could be given the first of them counts:
`Conditional.Fails` lists them with what rules out the others.  There is no truth value exactly
where one of the reasons applies (`evaluateConditional_errors`).

The proof has two halves.  Each reason, where it applies, is what is reported
(`Conditional.Fails.evaluate_eq`); and there always is a truth value or a reason
(`Conditional.evaluates_or_fails`), which goes by the function: a number of nodes, an extreme that
may be missing, or a sum.  An error therefore has exactly one reason, and the reasons need not
be shown to exclude each other.
-/

namespace NodeFit

/-! ## Functions and amounts -/

/-- A function is known by its name alone. -/
theorem AggregateFunction.ofName?_eq_some_iff {name : String} {function : AggregateFunction} :
    ofName? name = some function ↔ name = function.name := by
  constructor
  · intro h
    obtain ⟨hname, -⟩ := List.find?_eq_some_iff_append.1 h
    exact (beq_iff_eq.1 hname).symm
  · rintro rfl
    exact function.ofName?_name

/-- There are no functions but `count`, `min`, `max` and `sum`. -/
theorem AggregateFunction.ofName?_eq_none_iff {name : String} :
    ofName? name = none ↔ name ∉ ["count", "min", "max", "sum"] := by
  have hnames : all.map AggregateFunction.name = ["count", "min", "max", "sum"] := rfl
  rw [← hnames, ofName?, List.find?_eq_none, List.mem_map]
  simp

/-- There are no amounts when no node reports the property. -/
theorem reportedAmounts_eq_nil_iff {property : String} {nodes : List ClusterNode} :
    reportedAmounts property nodes = [] ↔ ∀ node ∈ nodes, node.lookup property = none :=
  List.filterMap_eq_nil_iff

namespace Conditional

/-! ## Reasons -/

/-- Why a conditional has no truth value over some nodes. -/
inductive Fails (c : Conditional) (nodes : List ClusterNode) : ConditionalProblem → Prop where
  /-- There is no function of the name. -/
  | unknownFunction : c.function ∉ ["count", "min", "max", "sum"] →
      c.Fails nodes (.unknownFunction c.function)
  /-- A number of nodes is compared with something that is no integer. -/
  | typeMismatch {text : String} : c.function = "count" → c.literal = .quantity text →
      c.Fails nodes (.typeMismatch text)
  /-- No node reports the property, so that there is no extreme, whatever the literal is. -/
  | noValue : c.function = "min" ∨ c.function = "max" →
      (∀ node ∈ nodes, node.lookup c.property = none) → c.Fails nodes (.noValue c.property)
  /-- There is an amount, but the literal is neither an integer nor a quantity. -/
  | quantity {text : String} {error : QuantityError} :
      c.function = "sum" ∨ (c.function = "min" ∨ c.function = "max") ∧
        (∃ node ∈ nodes, node.lookup c.property ≠ none) →
      c.literal = .quantity text → Quantity.parse text = .error error →
      c.Fails nodes (.quantity error)

variable {c : Conditional} {nodes : List ClusterNode} {problem : ConditionalProblem}

/-- The aggregate of a function that there is decides together with the literal. -/
theorem evaluate_of_function {function : AggregateFunction} (h : c.function = function.name) :
    c.evaluate nodes =
      (c.compareLiteral (aggregate function c.property nodes)).map c.operator.holds := by
  rw [evaluate, actual, AggregateFunction.ofName?_eq_some_iff.2 h]
  change (c.compareLiteral (aggregate function c.property nodes) >>= fun order =>
    Except.ok (c.operator.holds order)) = _
  cases c.compareLiteral (aggregate function c.property nodes) <;> rfl

/-- A sum is an amount, and so is an extreme where a node reports the property. -/
theorem exists_amount (h : c.function = "sum" ∨ (c.function = "min" ∨ c.function = "max") ∧
      ∃ node ∈ nodes, node.lookup c.property ≠ none) :
    ∃ (function : AggregateFunction) (q : Quantity), c.function = function.name ∧
      aggregate function c.property nodes = .quantity q := by
  obtain hsum | ⟨hextreme, hreported⟩ := h
  · exact ⟨.sum, _, hsum, rfl⟩
  · have hne : reportedAmounts c.property nodes ≠ [] := by
      rw [Ne, reportedAmounts_eq_nil_iff]
      simpa using hreported
    obtain hmin | hmax := hextreme
    · obtain ⟨q, hq, -⟩ := exists_aggregate_min hne
      exact ⟨.min, q, hmin, hq⟩
    · obtain ⟨q, hq, -⟩ := exists_aggregate_max hne
      exact ⟨.max, q, hmax, hq⟩

/-- An extreme has no value where no node reports the property. -/
theorem aggregate_of_unreported {function : AggregateFunction} {property : String}
    (hfunction : function = .min ∨ function = .max)
    (h : ∀ node ∈ nodes, node.lookup property = none) :
    aggregate function property nodes = .noValue := by
  have hnil := reportedAmounts_eq_nil_iff.2 h
  obtain rfl | rfl := hfunction <;> simp [aggregate, hnil, Quantity.least?, Quantity.greatest?]

/-- **Each reason is what is reported** where it applies. -/
theorem Fails.evaluate_eq (h : c.Fails nodes problem) : c.evaluate nodes = .error problem := by
  cases h with
  | unknownFunction hfunction =>
      rw [evaluate, actual, AggregateFunction.ofName?_eq_none_iff.2 hfunction]
      rfl
  | typeMismatch hfunction hliteral =>
      have hname : c.function = AggregateFunction.count.name := hfunction
      rw [evaluate_of_function hname]
      simp [aggregate, compareLiteral, hliteral, Except.map]
  | noValue hfunction hnone =>
      obtain hmin | hmax := hfunction
      · have hname : c.function = AggregateFunction.min.name := hmin
        rw [evaluate_of_function hname, aggregate_of_unreported (.inl rfl) hnone]
        rfl
      · have hname : c.function = AggregateFunction.max.name := hmax
        rw [evaluate_of_function hname, aggregate_of_unreported (.inr rfl) hnone]
        rfl
  | quantity hamount hliteral herror =>
      obtain ⟨function, q, hname, hq⟩ := exists_amount hamount
      rw [evaluate_of_function hname, hq]
      simp [compareLiteral, compareAmount, hliteral, Literal.text, herror, Except.map]

/-- An integer that is read from a token is a quantity when it is written again. -/
theorem exists_parse_integer {token : List Char} {n : Int}
    (h : Literal.ofToken token = .integer n) :
    ∃ q, Quantity.parse (Literal.integer n).text = .ok q := by
  obtain ⟨-, hfits⟩ := Text.readSigned?_eq_some_iff.1 (Literal.ofToken_eq_integer_iff.1 h)
  obtain ⟨q, hq, -⟩ := Quantity.exists_parse_of_readInt? (Text.readInt?_intDigits n) hfits
  exact ⟨q, hq⟩

/-- Where there is an amount, the literal alone can be at fault. -/
theorem evaluates_or_fails_of_amount {token : List Char} (hliteral : c.literal = .ofToken token)
    (h : c.function = "sum" ∨ (c.function = "min" ∨ c.function = "max") ∧
      ∃ node ∈ nodes, node.lookup c.property ≠ none) :
    (∃ b, c.evaluate nodes = .ok b) ∨ ∃ problem, c.Fails nodes problem := by
  obtain ⟨function, q, hname, hq⟩ := exists_amount h
  cases hparse : Quantity.parse c.literal.text with
  | ok desired =>
      refine .inl ⟨c.operator.holds (q.compare desired), ?_⟩
      rw [evaluate_of_function hname, hq]
      simp [compareLiteral, compareAmount, hparse, Except.map]
  | error error =>
      cases hc : c.literal with
      | integer n =>
          obtain ⟨desired, hdesired⟩ := exists_parse_integer (hliteral.symm.trans hc)
          simp [hc, hdesired] at hparse
      | quantity text =>
          rw [hc] at hparse
          exact .inr ⟨_, .quantity h hc hparse⟩

/-- An extreme is missing, or it is an amount. -/
theorem evaluates_or_fails_of_extreme {token : List Char} (hliteral : c.literal = .ofToken token)
    (h : c.function = "min" ∨ c.function = "max") (nodes : List ClusterNode) :
    (∃ b, c.evaluate nodes = .ok b) ∨ ∃ problem, c.Fails nodes problem := by
  by_cases hnone : ∀ node ∈ nodes, node.lookup c.property = none
  · exact .inr ⟨_, .noValue h hnone⟩
  · exact evaluates_or_fails_of_amount hliteral (.inr ⟨h, by simpa using hnone⟩)

/-- **A truth value or a reason** there always is. -/
theorem evaluates_or_fails {token : List Char} (hliteral : c.literal = .ofToken token)
    (nodes : List ClusterNode) :
    (∃ b, c.evaluate nodes = .ok b) ∨ ∃ problem, c.Fails nodes problem := by
  cases hfunction : AggregateFunction.ofName? c.function with
  | none => exact .inr ⟨_, .unknownFunction (AggregateFunction.ofName?_eq_none_iff.1 hfunction)⟩
  | some function =>
      have hname := AggregateFunction.ofName?_eq_some_iff.1 hfunction
      cases function with
      | count =>
          cases hc : c.literal with
          | integer n =>
              rw [evaluate_of_function hname, aggregate, compareLiteral, hc]
              exact .inl ⟨_, rfl⟩
          | quantity text => exact .inr ⟨_, .typeMismatch hname hc⟩
      | min => exact evaluates_or_fails_of_extreme hliteral (.inl hname) nodes
      | max => exact evaluates_or_fails_of_extreme hliteral (.inr hname) nodes
      | sum => exact evaluates_or_fails_of_amount hliteral (.inl hname)

/-- **A conditional has no truth value exactly for one of the reasons.** -/
theorem evaluate_eq_error_iff {token : List Char} (hliteral : c.literal = .ofToken token) :
    c.evaluate nodes = .error problem ↔ c.Fails nodes problem := by
  constructor
  · intro h
    obtain ⟨b, hb⟩ | ⟨reason, hreason⟩ := evaluates_or_fails hliteral nodes
    · rw [h] at hb
      contradiction
    · obtain rfl : problem = reason := Except.error.inj (h.symm.trans hreason.evaluate_eq)
      exact hreason
  · exact Fails.evaluate_eq

/-! ## Texts -/

/-- A text that is no conditional has one of three faults. -/
theorem problem_of_parse {text : String} (h : parse text = .error problem) :
    problem = .malformed ∨ problem = .pattern ∨ ∃ token, problem = .unknownOperator token := by
  unfold parse ofWords at h
  split at h
  · split at h
    · exact .inr (.inr ⟨_, (Except.error.inj h).symm⟩)
    · split at h
      · exact .inr (.inl (Except.error.inj h).symm)
      · contradiction
  · exact .inl (Except.error.inj h).symm

/-- The reasons why a conditional has no truth value are not faults of its text. -/
theorem Fails.isParseError_eq (h : c.Fails nodes problem) : problem.isParseError = false := by
  cases h <;> rfl

/-- What is wrong with a text that is no conditional is a fault of the text itself. -/
theorem isParseError_of_parse {text : String} (h : parse text = .error problem) :
    problem.isParseError = true := by
  obtain rfl | rfl | ⟨token, rfl⟩ := problem_of_parse h <;> rfl

/-- The literal of a conditional that was read comes from a token. -/
theorem exists_token_of_parse {text : String} (h : parse text = .ok c) :
    ∃ token, c.literal = .ofToken token := by
  obtain ⟨_, _, token, -, -, -, htoken⟩ := parse_eq_ok_iff.1 h
  exact ⟨token, htoken⟩

end Conditional

section

variable {text : String} {c : Conditional} {nodes : List ClusterNode}

/-- A text that is no conditional is reported with its fault, whatever the nodes are. -/
theorem evaluateConditional_of_parse_error {problem : ConditionalProblem} (hne : text ≠ "")
    (h : Conditional.parse text = .error problem) (nodes : List ClusterNode) :
    evaluateConditional text nodes = .error ⟨text, problem⟩ := by
  rw [evaluateConditional_of_ne_empty hne, h]
  rfl

/-- Every error carries the text. -/
theorem conditional_of_evaluateConditional {e : ConditionalError}
    (h : evaluateConditional text nodes = .error e) : e.conditional = text := by
  by_cases hne : text = ""
  · subst hne
    contradiction
  · rw [evaluateConditional_of_ne_empty hne] at h
    obtain ⟨problem, -, rfl⟩ := mapError_eq_error_iff.1 h
    rfl

/-- The truth value of a conditional is missing for one of the reasons. -/
theorem evaluateConditional_eq_error_iff {e : ConditionalError}
    (h : Conditional.parse text = .ok c) :
    evaluateConditional text nodes = .error e ↔
      e.conditional = text ∧ c.Fails nodes e.problem := by
  obtain ⟨token, hliteral⟩ := Conditional.exists_token_of_parse h
  rw [evaluateConditional_of_parse h, mapError_eq_error_iff]
  simp only [Conditional.evaluate_eq_error_iff hliteral]
  constructor
  · rintro ⟨problem, hfails, rfl⟩
    exact ⟨rfl, hfails⟩
  · rintro ⟨rfl, hfails⟩
    exact ⟨e.problem, hfails, rfl⟩

/-- There is a truth value where none of the reasons applies. -/
theorem exists_evaluateConditional_iff (h : Conditional.parse text = .ok c) :
    (∃ b, evaluateConditional text nodes = .ok b) ↔ ∀ problem, ¬c.Fails nodes problem := by
  obtain ⟨token, hliteral⟩ := Conditional.exists_token_of_parse h
  simp only [evaluateConditional_of_parse h, mapError_eq_ok_iff]
  constructor
  · rintro ⟨b, hb⟩ problem hfails
    rw [hfails.evaluate_eq] at hb
    contradiction
  · intro hnone
    obtain hvalue | ⟨problem, hfails⟩ := Conditional.evaluates_or_fails hliteral nodes
    · exact hvalue
    · exact absurd hfails (hnone problem)

/-- A text is reported as being at fault itself exactly when it is no conditional. -/
theorem isParseError_evaluateConditional_iff (hne : text ≠ "") :
    (∃ e, evaluateConditional text nodes = .error e ∧ e.problem.isParseError = true) ↔
      ∃ problem, Conditional.parse text = .error problem := by
  constructor
  · rintro ⟨e, he, hfault⟩
    cases hparse : Conditional.parse text with
    | error problem => exact ⟨problem, rfl⟩
    | ok c =>
        obtain ⟨-, hfails⟩ := (evaluateConditional_eq_error_iff hparse).1 he
        rw [hfails.isParseError_eq] at hfault
        contradiction
  · rintro ⟨problem, hproblem⟩
    exact ⟨_, evaluateConditional_of_parse_error hne hproblem nodes,
      Conditional.isParseError_of_parse hproblem⟩

end

/-- **When evaluating a text fails, and with what.**  The empty text holds.  Another text that is
no conditional is at fault itself, in one of three ways and over all nodes alike; and the truth
value of a conditional is missing exactly for one of the reasons that `Conditional.Fails` lists.
Every error carries the text. -/
theorem evaluateConditional_errors (text : String) (nodes : List ClusterNode) :
    (text = "" → evaluateConditional text nodes = .ok true) ∧
    (text ≠ "" →
      ((∃ e, evaluateConditional text nodes = .error e ∧ e.problem.isParseError = true) ↔
        ∃ problem, Conditional.parse text = .error problem) ∧
      ∀ problem, Conditional.parse text = .error problem →
        (problem = .malformed ∨ problem = .pattern ∨
          ∃ token, problem = .unknownOperator token) ∧
        ∀ others, evaluateConditional text others = .error ⟨text, problem⟩) ∧
    (∀ c, Conditional.parse text = .ok c →
      (∀ e, evaluateConditional text nodes = .error e ↔
        e.conditional = text ∧ c.Fails nodes e.problem) ∧
      ((∃ b, evaluateConditional text nodes = .ok b) ↔
        ∀ problem, ¬c.Fails nodes problem)) ∧
    ∀ e, evaluateConditional text nodes = .error e → e.conditional = text := by
  refine ⟨?_, ?_, ?_, ?_⟩
  · rintro rfl
    rfl
  · intro hne
    exact ⟨isParseError_evaluateConditional_iff hne, fun problem hproblem =>
      ⟨Conditional.problem_of_parse hproblem, evaluateConditional_of_parse_error hne hproblem⟩⟩
  · intro c hparse
    exact ⟨fun e => evaluateConditional_eq_error_iff hparse, exists_evaluateConditional_iff hparse⟩
  · intro e he
    exact conditional_of_evaluateConditional he

/-- A literal that is no quantity is not looked at before there is an amount. -/
theorem evaluateConditional_errors_lots :
    evaluateConditional "min(cpuCapacity) > lots" [.ofName "bare"] =
      .error ⟨"min(cpuCapacity) > lots", .noValue "cpuCapacity"⟩ ∧
    evaluateConditional "min(cpuCapacity) > lots" mixedNodes =
      .error ⟨"min(cpuCapacity) > lots", .quantity (.invalidNumber "lots")⟩ ∧
    evaluateConditional "cpuCapacity != lots" mixedNodes =
      .error ⟨"cpuCapacity != lots", .unknownOperator "!="⟩ := by
  have hparse : Conditional.parse "min(cpuCapacity) > lots" =
      .ok ⟨"min", "cpuCapacity", .greater, .quantity "lots"⟩ := by decide +kernel
  have hfault : Conditional.parse "cpuCapacity != lots" = .error (.unknownOperator "!=") := by
    decide +kernel
  have hlots : Quantity.parse "lots" = .error (.invalidNumber "lots") := by decide
  obtain ⟨-, -, hbare, -⟩ := evaluateConditional_errors "min(cpuCapacity) > lots" [.ofName "bare"]
  obtain ⟨-, -, hmixed, -⟩ := evaluateConditional_errors "min(cpuCapacity) > lots" mixedNodes
  obtain ⟨-, hparsed, -⟩ := evaluateConditional_errors "cpuCapacity != lots" mixedNodes
  refine ⟨?_, ?_, ?_⟩
  · exact ((hbare _ hparse).1 _).2 ⟨rfl, .noValue (.inl rfl) (by decide)⟩
  · have hreported : ∃ node ∈ mixedNodes, node.lookup "cpuCapacity" ≠ none := by decide +kernel
    exact ((hmixed _ hparse).1 _).2 ⟨rfl, .quantity (.inr ⟨.inl rfl, hreported⟩) rfl hlots⟩
  · exact ((hparsed (by decide)).2 _ hfault).2 mixedNodes

end NodeFit
