import NodeFit.Proofs.Conditional

/-!
# NodeFit.Proofs.Conditional.Meaning

What conditionals say about nodes.

A comparison of the least amount with a bound says something about all amounts or about one
of them, depending on the operator (`ComparisonOperator.RelatesLeast`), and a comparison of
the greatest amount says the reverse (`ComparisonOperator.RelatesGreatest`).  A sum is the
running total of the amounts, and `count` sees the number of nodes alone.  Whatever is
compared, one of less, equal and greater holds (`comparison_meaning`).

There is one theorem for each function (`evaluate_min`, `evaluate_max`, `evaluate_sum`,
`evaluate_count`), which says of all operators at once what the comparison means.  That they
exclude each other holds of any value that can be compared
(`exists_strict_of_evaluate`), and that the three spellings of equality mean the same is a fact
about texts (`Conditional.parse_congr_equality`).
-/

namespace NodeFit

/-! ## Operators -/

namespace ComparisonOperator

/-- What an operator says about two numbers. -/
def Relates : ComparisonOperator → Int → Int → Prop
  | equal, m, n => m = n
  | less, m, n => m < n
  | greater, m, n => n < m
  | lessOrEqual, m, n => m ≤ n
  | greaterOrEqual, m, n => n ≤ m

/-- What an operator between the least of some numbers and a bound says about the numbers. -/
def RelatesLeast : ComparisonOperator → List Int → Int → Prop
  | equal, numbers, bound => (∀ n ∈ numbers, bound ≤ n) ∧ ∃ n ∈ numbers, n = bound
  | less, numbers, bound => ∃ n ∈ numbers, n < bound
  | greater, numbers, bound => ∀ n ∈ numbers, bound < n
  | lessOrEqual, numbers, bound => ∃ n ∈ numbers, n ≤ bound
  | greaterOrEqual, numbers, bound => ∀ n ∈ numbers, bound ≤ n

/-- What an operator between the greatest of some numbers and a bound says about the numbers. -/
def RelatesGreatest : ComparisonOperator → List Int → Int → Prop
  | equal, numbers, bound => (∀ n ∈ numbers, n ≤ bound) ∧ ∃ n ∈ numbers, n = bound
  | less, numbers, bound => ∀ n ∈ numbers, n < bound
  | greater, numbers, bound => ∃ n ∈ numbers, bound < n
  | lessOrEqual, numbers, bound => ∀ n ∈ numbers, n ≤ bound
  | greaterOrEqual, numbers, bound => ∃ n ∈ numbers, bound ≤ n

instance (op : ComparisonOperator) (m n : Int) : Decidable (op.Relates m n) :=
  match op with
  | equal => inferInstanceAs (Decidable (m = n))
  | less => inferInstanceAs (Decidable (m < n))
  | greater => inferInstanceAs (Decidable (n < m))
  | lessOrEqual => inferInstanceAs (Decidable (m ≤ n))
  | greaterOrEqual => inferInstanceAs (Decidable (n ≤ m))

instance (op : ComparisonOperator) (numbers : List Int) (bound : Int) :
    Decidable (op.RelatesLeast numbers bound) :=
  match op with
  | equal => inferInstanceAs (Decidable ((∀ n ∈ numbers, bound ≤ n) ∧ ∃ n ∈ numbers, n = bound))
  | less => inferInstanceAs (Decidable (∃ n ∈ numbers, n < bound))
  | greater => inferInstanceAs (Decidable (∀ n ∈ numbers, bound < n))
  | lessOrEqual => inferInstanceAs (Decidable (∃ n ∈ numbers, n ≤ bound))
  | greaterOrEqual => inferInstanceAs (Decidable (∀ n ∈ numbers, bound ≤ n))

instance (op : ComparisonOperator) (numbers : List Int) (bound : Int) :
    Decidable (op.RelatesGreatest numbers bound) :=
  match op with
  | equal => inferInstanceAs (Decidable ((∀ n ∈ numbers, n ≤ bound) ∧ ∃ n ∈ numbers, n = bound))
  | less => inferInstanceAs (Decidable (∀ n ∈ numbers, n < bound))
  | greater => inferInstanceAs (Decidable (∃ n ∈ numbers, bound < n))
  | lessOrEqual => inferInstanceAs (Decidable (∀ n ∈ numbers, n ≤ bound))
  | greaterOrEqual => inferInstanceAs (Decidable (∃ n ∈ numbers, bound ≤ n))

/-- An operator holds between numbers that it relates. -/
theorem holds_compare (op : ComparisonOperator) (m n : Int) :
    op.holds (Ord.compare m n) = decide (op.Relates m n) := by
  have hlt : Ord.compare m n = .lt ↔ m < n := Std.compare_eq_lt
  have hgt : Ord.compare m n = .gt ↔ n < m := Std.compare_eq_gt
  have heq : Ord.compare m n = .eq ↔ m = n := Std.compare_eq_iff_eq
  cases op <;> grind [holds, Relates]

variable {numbers : List Int} {extreme : Int} (op : ComparisonOperator) (bound : Int)

/-- The least number stands for all of them, or for one that is as small as any. -/
theorem relates_iff_relatesLeast (hmem : extreme ∈ numbers) (hle : ∀ n ∈ numbers, extreme ≤ n) :
    op.Relates extreme bound ↔ op.RelatesLeast numbers bound := by
  cases op <;> grind [Relates, RelatesLeast]

/-- The greatest number stands for all of them, or for one that is as large as any. -/
theorem relates_iff_relatesGreatest (hmem : extreme ∈ numbers)
    (hle : ∀ n ∈ numbers, n ≤ extreme) :
    op.Relates extreme bound ↔ op.RelatesGreatest numbers bound := by
  cases op <;> grind [Relates, RelatesGreatest]

end ComparisonOperator

/-! ## Amounts -/

section

variable {property : String} {nodes : List ClusterNode}

/-- The amounts of a property are those that the nodes report. -/
theorem reportedAmounts_name (p : NodeProperty) (nodes : List ClusterNode) :
    reportedAmounts p.name nodes = nodes.filterMap fun node => node.get? p := by
  simp [reportedAmounts, ClusterNode.lookup]

/-- Nodes report nothing by a name that belongs to no property. -/
theorem reportedAmounts_of_ne_name (h : ∀ p : NodeProperty, property ≠ p.name) :
    reportedAmounts property nodes = [] := by
  have hnone : NodeProperty.ofName? property = none := by
    rw [NodeProperty.ofName?, List.find?_eq_none]
    intro p _ hp
    exact h p (by simpa using (beq_iff_eq.1 hp).symm)
  simp [reportedAmounts, ClusterNode.lookup, hnone]

/-- Where nodes report a property, the function `min` has the first least amount. -/
theorem exists_aggregate_min (h : reportedAmounts property nodes ≠ []) :
    ∃ q, aggregate .min property nodes = .quantity q ∧
      q.FirstLeast (reportedAmounts property nodes) := by
  cases hleast : Quantity.least? (reportedAmounts property nodes) with
  | none => exact absurd (Quantity.least?_eq_none_iff.1 hleast) h
  | some q =>
      exact ⟨q, by simp [aggregate, hleast], Quantity.firstLeast_of_least? hleast⟩

/-- Where nodes report a property, the function `max` has the last greatest amount. -/
theorem exists_aggregate_max (h : reportedAmounts property nodes ≠ []) :
    ∃ q, aggregate .max property nodes = .quantity q ∧
      q.LastGreatest (reportedAmounts property nodes) := by
  cases hgreatest : Quantity.greatest? (reportedAmounts property nodes) with
  | none => exact absurd (Quantity.greatest?_eq_none_iff.1 hgreatest) h
  | some q =>
      exact ⟨q, by simp [aggregate, hgreatest], Quantity.lastGreatest_of_greatest? hgreatest⟩

end

/-! ## Conditionals -/

namespace Conditional

section

variable {property : String} {nodes : List ClusterNode} {literal : Literal} {desired : Quantity}

/-- A conditional over an amount relates it to the quantity of the literal. -/
theorem evaluate_of_quantity (function : AggregateFunction) {q : Quantity}
    (hvalue : aggregate function property nodes = .quantity q)
    (hdesired : Quantity.parse literal.text = .ok desired) (op : ComparisonOperator) :
    evaluate ⟨function.name, property, op, literal⟩ nodes =
      .ok (decide (op.Relates q.nano desired.nano)) := by
  rw [evaluate_eq_ok_iff]
  refine ⟨function, q.compare desired, function.ofName?_name, ?_, op.holds_compare _ _⟩
  simp only [hvalue, compareLiteral, compareAmount, hdesired]

/-- **The least amount** is compared in the name of all amounts. -/
theorem evaluate_min (hdesired : Quantity.parse literal.text = .ok desired)
    (h : reportedAmounts property nodes ≠ []) (op : ComparisonOperator) :
    evaluate ⟨"min", property, op, literal⟩ nodes =
      .ok (decide (op.RelatesLeast ((reportedAmounts property nodes).map Quantity.nano)
        desired.nano)) := by
  obtain ⟨q, hvalue, hleast⟩ := exists_aggregate_min h
  obtain ⟨hmem, hle⟩ := hleast.spec
  have hiff : op.Relates q.nano desired.nano ↔
      op.RelatesLeast ((reportedAmounts property nodes).map Quantity.nano) desired.nano :=
    op.relates_iff_relatesLeast _ (List.mem_map_of_mem hmem) (List.forall_mem_map.2 hle)
  rw [← decide_eq_decide.2 hiff]
  exact evaluate_of_quantity .min hvalue hdesired op

/-- **The greatest amount** is compared in the name of all amounts. -/
theorem evaluate_max (hdesired : Quantity.parse literal.text = .ok desired)
    (h : reportedAmounts property nodes ≠ []) (op : ComparisonOperator) :
    evaluate ⟨"max", property, op, literal⟩ nodes =
      .ok (decide (op.RelatesGreatest ((reportedAmounts property nodes).map Quantity.nano)
        desired.nano)) := by
  obtain ⟨q, hvalue, hgreatest⟩ := exists_aggregate_max h
  obtain ⟨hmem, hle⟩ := hgreatest.spec
  have hiff : op.Relates q.nano desired.nano ↔
      op.RelatesGreatest ((reportedAmounts property nodes).map Quantity.nano) desired.nano :=
    op.relates_iff_relatesGreatest _ (List.mem_map_of_mem hmem) (List.forall_mem_map.2 hle)
  rw [← decide_eq_decide.2 hiff]
  exact evaluate_of_quantity .max hvalue hdesired op

/-- **A sum** is compared as the running total of the amounts. -/
theorem evaluate_sum (hdesired : Quantity.parse literal.text = .ok desired)
    (op : ComparisonOperator) :
    evaluate ⟨"sum", property, op, literal⟩ nodes =
      .ok (decide (op.Relates
        (Quantity.runningTotal 0 ((reportedAmounts property nodes).map Quantity.nano))
        desired.nano)) := by
  rw [← Quantity.sum_nano_eq_runningTotal]
  exact evaluate_of_quantity .sum rfl hdesired op

/-- **A number of nodes** is compared with an integer, whatever property is named. -/
theorem evaluate_count (property : String) (nodes : List ClusterNode) (op : ComparisonOperator)
    (n : Int) :
    evaluate ⟨"count", property, op, .integer n⟩ nodes =
      .ok (decide (op.Relates (min nodes.length AggregateValue.maxCount : Nat) n)) := by
  rw [evaluate_eq_ok_iff]
  exact ⟨.count, _, AggregateFunction.count.ofName?_name, rfl, op.holds_compare _ _⟩

/-- Whether there is a truth value does not depend on the operator: both sides stand in one
order, and every operator holds or fails by it. -/
theorem exists_order_of_evaluate {name : String} {op : ComparisonOperator} {b : Bool}
    (h : evaluate ⟨name, property, op, literal⟩ nodes = .ok b) :
    ∃ order : Ordering, ∀ op' : ComparisonOperator,
      evaluate ⟨name, property, op', literal⟩ nodes = .ok (op'.holds order) := by
  obtain ⟨function, order, hfunction, hcompare, -⟩ := evaluate_eq_ok_iff.1 h
  refine ⟨order, fun op' => evaluate_eq_ok_iff.2 ⟨function, order, hfunction, ?_, rfl⟩⟩
  exact hcompare

/-- **Exactly one of less, equal and greater holds** where there is a truth value. -/
theorem exists_strict_of_evaluate {name : String} {op : ComparisonOperator} {b : Bool}
    (h : evaluate ⟨name, property, op, literal⟩ nodes = .ok b) :
    ∃ strict ∈ [ComparisonOperator.less, .equal, .greater],
      ∀ op' ∈ [ComparisonOperator.less, .equal, .greater],
        evaluate ⟨name, property, op', literal⟩ nodes = .ok (decide (op' = strict)) := by
  obtain ⟨order, horder⟩ := exists_order_of_evaluate h
  simp only [horder]
  cases order with
  | lt => exact ⟨.less, by decide, by decide⟩
  | eq => exact ⟨.equal, by decide, by decide⟩
  | gt => exact ⟨.greater, by decide, by decide⟩

end

/-! ## Spellings -/

/-- The tokens that mean equality. -/
def equalities : List String := ["=", "==", "==="]

theorem ofToken?_of_mem_equalities {token : String} (h : token ∈ equalities) :
    ComparisonOperator.ofToken? token = some .equal := by
  have hall : ∀ token ∈ equalities, ComparisonOperator.ofToken? token = some .equal := by decide
  exact hall token h

/-- **Equality has one meaning, however it is spelled**: texts with the same words apart from
that are read alike. -/
theorem parse_congr_equality {text text' token token' : String} {call : List (List Char)}
    {literal : List Char} (htoken : token ∈ equalities) (htoken' : token' ∈ equalities)
    (hwords : Text.words text.toList = call ++ [token.toList, literal])
    (hwords' : Text.words text'.toList = call ++ [token'.toList, literal]) :
    parse text = parse text' := by
  have hop := ofToken?_of_mem_equalities htoken
  have hop' := ofToken?_of_mem_equalities htoken'
  rw [parse, parse, hwords, hwords']
  rcases call with _ | ⟨first, _ | ⟨second, rest⟩⟩
  · simp [completed, ofWords, hop, hop']
  · simp [completed, ofWords, hop, hop']
  · -- With more than three words, neither text is a conditional.
    cases rest <;> simp [completed, ofWords]

/-- A conditional with a token of equality compares for equality. -/
theorem operator_of_equality {text token : String} {call : List (List Char)}
    {literal : List Char} {c : Conditional} (htoken : token ∈ equalities)
    (hwords : Text.words text.toList = call ++ [token.toList, literal])
    (h : parse text = .ok c) : c.operator = .equal := by
  obtain ⟨_, operator, _, hcompleted, hop, -, -⟩ := parse_eq_ok_iff.1 h
  rw [hwords] at hcompleted
  have hoperator : operator = token.toList := by
    rcases call with _ | ⟨first, _ | ⟨second, rest⟩⟩
    · simp_all [completed]
    · simp_all [completed]
    · cases rest <;> simp [completed] at hcompleted
  rw [hoperator, String.ofList_toList, ofToken?_of_mem_equalities htoken] at hop
  exact (Option.some.inj hop).symm

end Conditional

/-! ## The meaning of comparisons -/

/-- **What comparisons over nodes mean.**  The amounts of a property are those that nodes report
under its name, and no other name has any.  The least of them is the first that is least, the
greatest the last that is greatest, and comparing one of these speaks of all amounts or of some.
A sum is the running total, `count` the number of nodes, equality has three spellings, and
whatever has a truth value is less, equal or greater, and only one of these. -/
theorem comparison_meaning (property : String) (nodes : List ClusterNode) :
    (∀ p : NodeProperty, property = p.name →
      reportedAmounts property nodes = nodes.filterMap fun node => node.get? p) ∧
    ((∀ p : NodeProperty, property ≠ p.name) → reportedAmounts property nodes = []) ∧
    (reportedAmounts property nodes ≠ [] →
      (∃ least, aggregate .min property nodes = .quantity least ∧
        least.FirstLeast (reportedAmounts property nodes)) ∧
      (∃ greatest, aggregate .max property nodes = .quantity greatest ∧
        greatest.LastGreatest (reportedAmounts property nodes)) ∧
      ∀ (op : ComparisonOperator) (literal : Literal) (desired : Quantity),
        Quantity.parse literal.text = .ok desired →
        Conditional.evaluate ⟨"min", property, op, literal⟩ nodes =
          .ok (decide (op.RelatesLeast ((reportedAmounts property nodes).map Quantity.nano)
            desired.nano)) ∧
        Conditional.evaluate ⟨"max", property, op, literal⟩ nodes =
          .ok (decide (op.RelatesGreatest ((reportedAmounts property nodes).map Quantity.nano)
            desired.nano))) ∧
    (∀ (op : ComparisonOperator) (literal : Literal) (desired : Quantity),
      Quantity.parse literal.text = .ok desired →
      Conditional.evaluate ⟨"sum", property, op, literal⟩ nodes =
        .ok (decide (op.Relates
          (Quantity.runningTotal 0 ((reportedAmounts property nodes).map Quantity.nano))
          desired.nano)) ∧
      (reportedAmounts property nodes = [] →
        Conditional.evaluate ⟨"sum", property, op, literal⟩ nodes =
          .ok (decide (op.Relates 0 desired.nano)))) ∧
    (∀ (op : ComparisonOperator) (n : Int),
      Conditional.evaluate ⟨"count", property, op, .integer n⟩ nodes =
        .ok (decide (op.Relates (min nodes.length AggregateValue.maxCount : Nat) n)) ∧
      (nodes.length ≤ AggregateValue.maxCount →
        Conditional.evaluate ⟨"count", property, op, .integer n⟩ nodes =
          .ok (decide (op.Relates nodes.length n)))) ∧
    (∀ (text text' token token' : String) (call : List (List Char)) (literal : List Char),
      token ∈ ["=", "==", "==="] → token' ∈ ["=", "==", "==="] →
      Text.words text.toList = call ++ [token.toList, literal] →
      Text.words text'.toList = call ++ [token'.toList, literal] →
      Conditional.parse text = Conditional.parse text' ∧
      ∀ c, Conditional.parse text = .ok c → c.operator = .equal) ∧
    ∀ (function : String) (op : ComparisonOperator) (literal : Literal) (b : Bool),
      Conditional.evaluate ⟨function, property, op, literal⟩ nodes = .ok b →
      ∃ strict ∈ [ComparisonOperator.less, .equal, .greater],
        ∀ op' ∈ [ComparisonOperator.less, .equal, .greater],
          Conditional.evaluate ⟨function, property, op', literal⟩ nodes =
            .ok (decide (op' = strict)) := by
  refine ⟨?_, reportedAmounts_of_ne_name, ?_, ?_, ?_, ?_, ?_⟩
  · rintro p rfl
    exact reportedAmounts_name p nodes
  · intro hne
    exact ⟨exists_aggregate_min hne, exists_aggregate_max hne, fun op literal desired hdesired =>
      ⟨Conditional.evaluate_min hdesired hne op, Conditional.evaluate_max hdesired hne op⟩⟩
  · intro op literal desired hdesired
    refine ⟨Conditional.evaluate_sum hdesired op, fun hnone => ?_⟩
    rw [Conditional.evaluate_sum hdesired op, hnone]
    rfl
  · intro op n
    have hcount := Conditional.evaluate_count property nodes op n
    exact ⟨hcount, fun hle => by rw [hcount, Nat.min_eq_left hle]⟩
  · intro text text' token token' call literal htoken htoken' hwords hwords'
    exact ⟨Conditional.parse_congr_equality htoken htoken' hwords hwords', fun c hc =>
      Conditional.operator_of_equality htoken hwords hc⟩
  · intro function op literal b h
    exact Conditional.exists_strict_of_evaluate h

/-- A node of which only its processors are known. -/
def nodeOfProcessors (processors : Quantity) : ClusterNode :=
  (ClusterNode.ofName "").withAmount ⟨.cpu, .capacity⟩ processors

/-- Nodes of eight and twice four processors, and one that reports none. -/
def mixedNodes : List ClusterNode :=
  [nodeOfProcessors (.clamp 8000000000 .decimalSI), .ofName "bare",
    nodeOfProcessors (.clamp 4000000000 .decimalExponent),
    nodeOfProcessors (.clamp 4000000000 .decimalSI)]

/-- Of two amounts that are least the first is reported, whatever its suffix family, and the node
that reports nothing counts as a node. -/
theorem comparison_meaning_mixed :
    (∃ least, aggregate .min "cpuCapacity" mixedNodes = .quantity least ∧
      least.format = .decimalExponent ∧
      least.FirstLeast (reportedAmounts "cpuCapacity" mixedNodes)) ∧
    Conditional.evaluate ⟨"min", "cpuCapacity", .equal, .quantity "4000m"⟩ mixedNodes =
      .ok true ∧
    Conditional.evaluate ⟨"max", "cpuCapacity", .lessOrEqual, .integer 8⟩ mixedNodes =
      .ok true ∧
    Conditional.evaluate ⟨"sum", "cpuCapacity", .greater, .quantity "16e0"⟩ mixedNodes =
      .ok false ∧
    Conditional.evaluate ⟨"count", "cpuCapacity", .equal, .integer 4⟩ mixedNodes = .ok true ∧
    Conditional.parse "min(cpuCapacity) = 4" = Conditional.parse " min(cpuCapacity)  === 4" := by
  obtain ⟨-, -, hextreme, hsum, hcount, hspelling, -⟩ :=
    comparison_meaning "cpuCapacity" mixedNodes
  obtain ⟨⟨least, hleast, hfirst⟩, -, hcompare⟩ := hextreme (by decide +kernel)
  have hvalue : aggregate .min "cpuCapacity" mixedNodes =
      .quantity (.clamp 4000000000 .decimalExponent) := by decide +kernel
  have hmilli : Quantity.parse (Literal.quantity "4000m").text =
      .ok (.clamp 4000000000 .decimalSI) := by decide +kernel
  have hunits : Quantity.parse (Literal.integer 8).text =
      .ok (.clamp 8000000000 .decimalSI) := by decide +kernel
  have hexponent : Quantity.parse (Literal.quantity "16e0").text =
      .ok (.clamp 16000000000 .decimalExponent) := by decide +kernel
  refine ⟨⟨least, hleast, ?_, hfirst⟩, ?_, ?_, ?_, ?_, ?_⟩
  · obtain rfl := AggregateValue.quantity.inj (hvalue.symm.trans hleast)
    decide
  · rw [(hcompare .equal _ _ hmilli).1]
    decide +kernel
  · rw [(hcompare .lessOrEqual _ _ hunits).2]
    decide +kernel
  · rw [(hsum .greater _ _ hexponent).1]
    decide +kernel
  · rw [(hcount .equal 4).2 (by decide)]
    decide +kernel
  · exact (hspelling _ _ "=" "===" ["min(cpuCapacity)".toList] ['4'] (by decide) (by decide)
      (by decide) (by decide)).1

end NodeFit
