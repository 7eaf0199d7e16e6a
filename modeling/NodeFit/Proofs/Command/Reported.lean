import NodeFit.Command
import NodeFit.Proofs.Conditional.Meaning
import NodeFit.Proofs.Filter.Bound

/-!
# NodeFit.Proofs.Command.Reported

The value that is reported for a conditional is the one that is compared.

A value and a literal that it can be compared with stand for two numbers
(`AggregateValue.Against`).  Written as a literal, a value stands for the same number as before
(`AggregateValue.against_text`); and where a conditional has a truth value, the report
shows the value whose number its operator relates to that of the literal, or does not
(`tryConditional_reports`).

So the shown text can take the place of the call in a second conditional, or of the literal, and
nothing is lost by the rendering.  The one exception is the least amount, whose text is out of
range when it is read back; it is left out by `AggregateValue.Legible`.
-/

namespace NodeFit

namespace AggregateValue

/-- The numbers that a value and a literal stand for: the number of nodes and the integer, or the
amount and the amount that is written. -/
inductive Against : AggregateValue → Literal → Int → Int → Prop where
  | count {nodes : Nat} {n : Int} : Against (.count nodes) (.integer n) nodes n
  | quantity {q desired : Quantity} {literal : Literal} :
      Quantity.parse literal.text = .ok desired →
      Against (.quantity q) literal q.nano desired.nano

/-- A value that its text gives back as a literal. -/
inductive Legible : AggregateValue → Prop where
  | count {nodes : Nat} : nodes ≤ maxCount → Legible (.count nodes)
  | quantity {q : Quantity} : q.nano ≠ -Quantity.limit → Legible (.quantity q)

/-! ## Texts -/

/-- **A value is equal to its text**, read as a literal. -/
theorem against_text {value : AggregateValue} (h : value.Legible) :
    Text.IsWord value.text.toList ∧ ∃ n, value.Against (.ofToken value.text.toList) n n := by
  cases h with
  | @count nodes hle =>
      have hfits : Text.fitsSigned 64 (nodes : Int) = true :=
        decide_eq_true (Nat.lt_of_le_of_lt hle (by decide))
      rw [text, Text.toList_decimal, Literal.ofToken_intDigits hfits]
      exact ⟨Text.isWord_intDigits nodes, nodes, .count⟩
  | @quantity q hq =>
      obtain ⟨r, hr, hnano, -⟩ := Quantity.exists_parse_text hq
      obtain ⟨desired, hdesired, hsame⟩ := Quantity.exists_parse_literal hr
      have hagainst : (AggregateValue.quantity q).Against _ q.nano _ := .quantity hdesired
      rw [hsame, hnano] at hagainst
      exact ⟨Quantity.isWord_of_parse hr, q.nano, hagainst⟩

/-- No integer is written like the lack of a value. -/
theorem decimal_ne_none (i : Int) : Text.decimal i ≠ "<none>" := by
  intro h
  have hread := Text.readInt?_intDigits i
  rw [← Text.toList_decimal, h] at hread
  contradiction

/-- No amount is written like the lack of a value: it would be no number when read again. -/
theorem quantity_text_ne_none (q : Quantity) : q.text ≠ "<none>" := by
  intro h
  have hnone : Quantity.parse "<none>" = .error (.invalidNumber "<none>") := by decide
  by_cases hq : q.nano = -Quantity.limit
  · have herror := Quantity.parse_text_of_eq hq
    rw [h, hnone] at herror
    contradiction
  · obtain ⟨r, hr, -⟩ := Quantity.exists_parse_text hq
    rw [h, hnone] at hr
    contradiction

/-- A value that is compared is no lack of a value, and is not written like one. -/
theorem Against.text_ne_none {value : AggregateValue} {literal : Literal} {m n : Int}
    (h : value.Against literal m n) : value.text ≠ "<none>" := by
  cases h with
  | count => exact decimal_ne_none _
  | quantity => exact quantity_text_ne_none _

end AggregateValue

/-! ## Aggregates -/

namespace AggregateFunction

variable {function : AggregateFunction} {property : String} {nodes : List ClusterNode}

/-- A value of a function is legible, except for the least amount. -/
theorem legible_aggregate (hvalue : aggregate function property nodes ≠ .noValue)
    (hleast : ∀ q, aggregate function property nodes = .quantity q → q.nano ≠ -Quantity.limit) :
    (aggregate function property nodes).Legible := by
  cases h : aggregate function property nodes with
  | count n => exact .count (le_maxCount h)
  | quantity q => exact .quantity (hleast q h)
  | noValue => exact absurd h hvalue

/-- A call of a function is one word if its property has no blank in it. -/
theorem isWord_call (function : AggregateFunction)
    (hproperty : ∀ c ∈ property.toList, Text.isBlank c = false) :
    Text.IsWord (function.name ++ "(" ++ property ++ ")").toList := by
  have hname : ∀ c ∈ function.name.toList, Text.isBlank c = false :=
    Text.not_isBlank_of_any (by cases function <;> decide)
  exact Conditional.isWord_call hname hproperty

end AggregateFunction

/-! ## Conditionals -/

namespace Conditional

/-- A conditional finds a value in the order of the numbers that are compared. -/
theorem compareLiteral_eq_ok_iff {c : Conditional} {value : AggregateValue} {order : Ordering} :
    c.compareLiteral value = .ok order ↔
      ∃ m n, value.Against c.literal m n ∧ Ord.compare m n = order := by
  obtain ⟨function, property, operator, literal⟩ := c
  constructor
  · intro h
    cases value with
    | noValue => contradiction
    | count nodes =>
        cases literal with
        | integer n => exact ⟨nodes, n, .count, Except.ok.inj h⟩
        | quantity text => contradiction
    | quantity q =>
        simp only [compareLiteral, compareAmount] at h
        split at h
        · contradiction
        · next desired hdesired =>
            exact ⟨q.nano, desired.nano, .quantity hdesired, Except.ok.inj h⟩
  · intro h
    obtain ⟨m, n, hagainst, rfl⟩ := h
    cases hagainst with
    | count => rfl
    | quantity hdesired =>
        simp only [compareLiteral, compareAmount, hdesired]
        rfl

/-- **The value of a function is equal to its text**, over the same nodes. -/
theorem evaluate_text {function : AggregateFunction} {property : String}
    {nodes : List ClusterNode} (hproperty : ∀ c ∈ property.toList, Text.isBlank c = false)
    (hlegible : (aggregate function property nodes).Legible) :
    evaluateConditional
      (function.name ++ "(" ++ property ++ ") == " ++ (aggregate function property nodes).text)
      nodes = .ok true := by
  obtain ⟨hword, n, hagainst⟩ := AggregateValue.against_text hlegible
  have hbracket : '(' ∉ function.name.toList := by cases function <;> decide
  have hparse := parse_written .equal hbracket (function.isWord_call hproperty) hword
  have htext : function.name ++ "(" ++ property ++ ") " ++ ComparisonOperator.equal.symbol ++ " "
        ++ (aggregate function property nodes).text =
      function.name ++ "(" ++ property ++ ") == " ++ (aggregate function property nodes).text := by
    simp [← String.toList_inj, ComparisonOperator.symbol]
  rw [htext] at hparse
  rw [evaluateConditional_of_parse hparse, mapError_eq_ok_iff, evaluate_eq_ok_iff]
  exact ⟨function, .eq, function.ofName?_name,
    compareLiteral_eq_ok_iff.2 ⟨n, n, hagainst, Std.compare_self⟩, rfl⟩

end Conditional

/-! ## Reports -/

section

variable {text : String} {nodes : List ClusterNode}

/-- What has a truth value, other than the empty text, is a conditional with one. -/
theorem exists_parse_of_evaluateConditional {b : Bool} (hne : text ≠ "")
    (h : evaluateConditional text nodes = .ok b) :
    ∃ c, Conditional.parse text = .ok c ∧ c.evaluate nodes = .ok b := by
  rw [evaluateConditional_of_ne_empty hne, mapError_eq_ok_iff, bind_eq_ok_iff] at h
  exact h

/-- The value that is reported is that of the function. -/
theorem actualOf?_of_parse {c : Conditional} {function : AggregateFunction}
    (hparse : Conditional.parse text = .ok c)
    (hfunction : AggregateFunction.ofName? c.function = some function) :
    actualOf? text nodes = some (aggregate function c.property nodes) := by
  have hactual : c.actual nodes = .ok (aggregate function c.property nodes) := by
    rw [Conditional.actual, hfunction]
  rw [actualOf?, bind_eq_ok_iff.2 ⟨c, hparse, hactual⟩]

end

/-- **The reported value is the one that is compared.**  The value of a function, unless there
is none or it is the least amount, is equal to the text that it is shown as.  Where a conditional
has a truth value, the report shows a value, and the conditional is true if its operator relates
the number of that value to the number of the literal. -/
theorem tryConditional_reports :
    (∀ (function : AggregateFunction) (property : String) (nodes : List ClusterNode),
      (∀ c ∈ property.toList, Text.isBlank c = false) →
      aggregate function property nodes ≠ .noValue →
      (∀ q, aggregate function property nodes = .quantity q → q.nano ≠ -Quantity.limit) →
      evaluateConditional
        (function.name ++ "(" ++ property ++ ") == " ++ (aggregate function property nodes).text)
        nodes = .ok true) ∧
    ∀ (conditional : String) (selector : LabelSelector) (nodes : List ClusterNode) (b : Bool),
      conditional ≠ "" → evaluateConditional conditional (selector.select nodes) = .ok b →
      ∃ (c : Conditional) (function : AggregateFunction) (m n : Int),
        Conditional.parse conditional = .ok c ∧
        AggregateFunction.ofName? c.function = some function ∧
        let value := aggregate function c.property (selector.select nodes)
        Command.tryConditional conditional selector nodes =
          .ok (.eval conditional (selector.select nodes).length nodes.length (some value.text) b) ∧
        value.text ≠ "<none>" ∧ value.Against c.literal m n ∧
        (b = true ↔ c.operator.Relates m n) := by
  constructor
  · intro function property nodes hproperty hvalue hleast
    exact Conditional.evaluate_text hproperty
      (AggregateFunction.legible_aggregate hvalue hleast)
  · intro conditional selector nodes b hne h
    obtain ⟨c, hparse, hevaluate⟩ := exists_parse_of_evaluateConditional hne h
    obtain ⟨function, order, hfunction, hcompare, hholds⟩ :=
      Conditional.evaluate_eq_ok_iff.1 hevaluate
    obtain ⟨m, n, hagainst, rfl⟩ := Conditional.compareLiteral_eq_ok_iff.1 hcompare
    rw [ComparisonOperator.holds_compare] at hholds
    refine ⟨c, function, m, n, hparse, hfunction, ?_, hagainst.text_ne_none, hagainst, ?_⟩
    · rw [Command.tryConditional, h, actualOf?_of_parse hparse hfunction]
      rfl
    · rw [← hholds, decide_eq_true_iff]

/-- Twelve processors are shown as an integer, and eight are fewer than ten. -/
theorem tryConditional_reports_processors :
    evaluateConditional "sum(cpuCapacity) == 12" [eightProcessors, fourProcessors] = .ok true ∧
    Command.tryConditional "max(cpuCapacity) < 1e1" ⟨.empty⟩ [eightProcessors, fourProcessors] =
      .ok (.eval "max(cpuCapacity) < 1e1" 2 2 (some "8") true) ∧
    ∃ m n, (aggregate .max "cpuCapacity" [eightProcessors, fourProcessors]).Against
      (.quantity "1e1") m n ∧ m < n := by
  obtain ⟨hequal, hreports⟩ := tryConditional_reports
  constructor
  · have hsum : aggregate .sum "cpuCapacity" [eightProcessors, fourProcessors] =
        .quantity (.clamp 12000000000 .decimalSI) := by decide +kernel
    have htext : AggregateFunction.name .sum ++ "(" ++ "cpuCapacity" ++ ") == "
          ++ (AggregateValue.quantity (.clamp 12000000000 .decimalSI)).text =
        "sum(cpuCapacity) == 12" := by decide +kernel
    have hproperty : ∀ c ∈ "cpuCapacity".toList, Text.isBlank c = false :=
      Text.not_isBlank_of_any (by decide)
    have h := hequal .sum "cpuCapacity" [eightProcessors, fourProcessors] hproperty
    rw [hsum, htext] at h
    exact h (by simp) fun q hq => AggregateValue.quantity.inj hq ▸ by decide
  · have hholds : evaluateConditional "max(cpuCapacity) < 1e1"
        ((LabelSelector.mk .empty).select [eightProcessors, fourProcessors]) = .ok true := by
      decide +kernel
    have hc : Conditional.parse "max(cpuCapacity) < 1e1" =
        .ok ⟨"max", "cpuCapacity", .less, .quantity "1e1"⟩ := by decide
    obtain ⟨c, function, m, n, hparse, hfunction, hreport, -, hagainst, hrelates⟩ :=
      hreports _ _ _ _ (by decide) hholds
    obtain rfl := Except.ok.inj (hc.symm.trans hparse)
    obtain rfl : AggregateFunction.max = function :=
      Option.some.inj ((AggregateFunction.ofName?_name .max).symm.trans hfunction)
    exact ⟨hreport, m, n, hagainst, hrelates.1 rfl⟩

end NodeFit
