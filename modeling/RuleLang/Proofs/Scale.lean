import RuleLang.Proofs.ActionBook.Records
import RuleLang.Proofs.Operator.Views
import RuleLang.Proofs.RuleBook.Builtins

/-!
# The scale of a number does not matter

A record may hold `25` or `25.00`. Main statement: **rules over the built-in operators have the
same result on records that differ in such scales only** (`scale_does_not_matter`), the same error,
or the same value but, at most, for the scale of a number; so it is shown alike, is the same JSON
value, and has the same actions due.

Operators reach a value through its views, and numbers of one value have the same (`sameViews`). So
each built-in operator gives the same result for operands that differ so (`builtins_respect`); the
evaluation then gives related ones, for any sequence, because it only ever applies them.
-/

set_option autoImplicit false

namespace RuleLang

/-! ## Values -/

/-- A value and itself, or two numbers of one value. -/
inductive Value.SameButScale : Value → Value → Prop
  | same (v : Value) : SameButScale v v
  | number {d d' : Decimal} : d.value = d'.value → SameButScale (.number d) (.number d')

namespace Value.SameButScale

variable {v v' : Value} (h : v.SameButScale v')
include h

theorem asNumber :
    Option.Rel (fun d d' => Decimal.value d = d'.value) v.asNumber? v'.asNumber? := by
  cases h with
  | number hvalue => exact .some hvalue
  | same =>
    cases v.asNumber? with
    | none => exact .none
    | some d => exact .some rfl

theorem asText_eq : v.asText? = v'.asText? := by
  cases h with
  | same => rfl
  | number hvalue => exact congrArg some (Decimal.valueText_congr hvalue)

theorem describe_eq : v.describe = v'.describe := by
  cases h with
  | same => rfl
  | number hvalue => exact congrArg ("number " ++ ·) (Decimal.valueText_congr hvalue)

theorem sameViews : v.SameViews v' where
  number := h.asNumber
  text := h.asText_eq
  description _ := h.describe_eq
  list items := by
    cases h with
    | same => rfl
    | number _ => simp

theorem truthy_eq : v.truthy = v'.truthy := by
  cases h with
  | same => rfl
  | number hvalue => rw [truthy, truthy, Decimal.isZero_congr hvalue]

theorem isNull_eq : v.isNull = v'.isNull := by
  cases h <;> rfl

theorem display_eq : v.display = v'.display := by
  cases h with
  | same => rfl
  | number hvalue => exact Decimal.valueText_congr hvalue

theorem toJson_eq : v.toJson = v'.toJson := by
  cases h with
  | same => rfl
  | number hvalue => rw [toJson, toJson, Decimal.toJson_congr hvalue]

end Value.SameButScale

/-- Records that hold the same under every name, but for the scales of numbers. -/
def Record.SameButScale (record record' : Record) : Prop :=
  ∀ name, Option.Rel Value.SameButScale (record.get? name) (record'.get? name)

theorem Record.SameButScale.field {record record' : Record} (h : record.SameButScale record')
    (name : String) : (record.field name).SameButScale (record'.field name) := by
  have hname := h name
  unfold Record.field
  generalize record.get? name = found at hname ⊢
  generalize record'.get? name = found' at hname ⊢
  cases hname with
  | none => exact .same _
  | some hvalue => exact hvalue

/-! ## Operators -/

namespace Operator

/-- Whether a function of two values has, for operands of other scales, the same result but for its
scale, or the same error. -/
def Respects (apply : Value → Value → Except OperatorError Value) : Prop :=
  ∀ {left left' right right' : Value}, left.SameButScale left' → right.SameButScale right' →
    Outcome Eq Value.SameButScale (apply left right) (apply left' right')

theorem outcome_of_eq {result result' : Except OperatorError Value} (h : result = result') :
    Outcome Eq Value.SameButScale result result' := by
  rw [h]
  refine (Outcome.refl result').imp id fun hvalue => ?_
  rw [hvalue]
  exact .same _

/-- **No built-in operator tells at which scale a number was written.** -/
theorem builtins_respect : ∀ e ∈ builtins, Respects e.2.apply := by
  intro e he left left' right right' hleft hright
  refine outcome_of_eq ?_
  by_cases hsymbol : e.1 ∈ connectives
  · rcases apply_of_mem_connectives he hsymbol with happly | happly
    · rw [happly, both, both, hleft.truthy_eq, hright.truthy_eq]
    · rw [happly, either, either, hleft.truthy_eq, hright.truthy_eq]
  · exact apply_congr he hsymbol hleft.sameViews hright.sameViews

end Operator

/-! ## Evaluation -/

variable {bound : OperatorSet} {record record' : Record}

theorem Evaluate.applies_of_overBuiltins (h : OverBuiltins bound) (symbol : String) :
    Applies Value.SameButScale bound bound symbol symbol := by
  intro left left' right right' hleft hright
  unfold applySymbol
  cases hop : bound.get? (OperatorTable.key symbol) with
  | none => exact .error rfl
  | some op =>
    obtain ⟨e, he, happly⟩ := h _ op hop
    have hrelated := Operator.builtins_respect e he hleft hright
    rw [← happly] at hrelated
    dsimp only
    generalize op.apply left right = result at hrelated ⊢
    generalize op.apply left' right' = result' at hrelated ⊢
    cases hrelated with
    | ok hvalue => exact .ok hvalue
    | error hcause => exact .error (congrArg EvalError.operator hcause)

/-- Sequences of any shape are evaluated alike. -/
theorem evaluate_sameButScale (hbound : OverBuiltins bound) (h : record.SameButScale record')
    (sequence : List Part) :
    Outcome Eq Value.SameButScale (evaluate bound record sequence)
      (evaluate bound record' sequence) := by
  refine evaluate_related (List.forall₂_same.mpr fun part _ => ?_)
  cases part with
  | operator symbol => exact .operator (Evaluate.applies_of_overBuiltins hbound symbol)
  | field name => exact .operand rfl rfl (h.field name)
  | text _ | other _ => exact .operand rfl rfl (.same _)

/-- What does not tell the scale of a value does not tell the two results apart. -/
theorem map_eq_of_sameButScale {ε : Type} {α : Type} {result result' : Except ε Value}
    (h : Outcome Eq Value.SameButScale result result') {view : Value → α}
    (hview : ∀ {v v' : Value}, v.SameButScale v' → view v = view v') :
    result.map view = result'.map view := by
  cases h with
  | ok hvalue => exact congrArg Except.ok (hview hvalue)
  | error he => exact congrArg Except.error he

/-! ## Actions -/

theorem Rule.guardsAlike_of_sameButScale {rule : Rule} (hbound : OverBuiltins rule.bound)
    (h : record.SameButScale record') : rule.GuardsAlike record record' where
  value := (evaluate_sameButScale hbound h rule.sequence).imp (fun _ => trivial)
    fun hvalue => hvalue.truthy_eq
  lacks := by
    unfold ActionBook.lacksField
    simp only [(h.field _).isNull_eq]

/-- **The scale of a number does not matter.** Any sequence over the built-in operators, under
whatever symbols, has one error on two records that differ in the scales of numbers only, or values
that differ so at most: they are shown alike and have one JSON value. And two such records lead to
the same actions of an action book whose rules are over the built-in operators: for each input, and
for all inputs together, in whatever order they come as long as no more than one of them fails. The
rules of an action book are so if no other operators were added since it was made. -/
theorem scale_does_not_matter [MatcherBuilder] :
    (∀ (bound : OperatorSet) (record record' : Record) (sequence : List Part),
      OverBuiltins bound → record.SameButScale record' →
        Outcome Eq Value.SameButScale (evaluate bound record sequence)
          (evaluate bound record' sequence) ∧
        (evaluate bound record sequence).map Value.display =
          (evaluate bound record' sequence).map Value.display ∧
        (evaluate bound record sequence).map Value.toJson =
          (evaluate bound record' sequence).map Value.toJson) ∧
    (∀ (actions : ActionBook) (record record' : Record),
      (∀ rule, actions.Guards rule → OverBuiltins rule.bound) → record.SameButScale record' →
        (∀ input, actions.evaluate input record = actions.evaluate input record') ∧
        actions.evaluateAll record = actions.evaluateAll record' ∧
        ∀ order order' : List RuleName, order.Perm actions.inputNames →
          order'.Perm actions.inputNames → actions.AtMostOneFails record →
            actions.evaluateInOrder order record = actions.evaluateInOrder order' record') ∧
    ∀ (ops : List ActionBook.Operation) (rule : Rule), (∀ op ∈ ops, op.AddsBuiltins) →
      ((ActionBook.ofBook {}).run ops).Guards rule → OverBuiltins rule.bound := by
  refine ⟨?_, ?_, ?_⟩
  · intro bound record record' sequence hbound h
    have hresult := evaluate_sameButScale hbound h sequence
    exact ⟨hresult, map_eq_of_sameButScale hresult fun hvalue => hvalue.display_eq,
      map_eq_of_sameButScale hresult fun hvalue => hvalue.toJson_eq⟩
  · intro actions record record' hbound h
    have hinput : ∀ input, actions.evaluate input record = actions.evaluate input record' :=
      ActionBook.evaluate_congr fun rule hrule =>
        Rule.guardsAlike_of_sameButScale (hbound rule hrule) h
    refine ⟨hinput, ActionBook.evaluateAll_congr hinput, ?_⟩
    intro order order' horder horder' honly
    exact ActionBook.evaluateInOrder_congr hinput horder horder' honly
  · intro ops rule hops hguards
    obtain ⟨_, hrule⟩ := SortedMap.mem_values_iff.mp (ActionBook.mem_values_of_guards hguards)
    have hstart : RuleBook.OverBuiltins {} :=
      RuleBook.overBuiltins_of_no_rules rfl OperatorTable.overBuiltins_builtin
    exact (ActionBook.run_overBuiltins ops hstart hops).rules hrule

/-- A price of 25 and one of 25.00: a quarter of either is 6.25, which has the text of the price in
it, and both are equal to 25.0. -/
theorem scale_does_not_matter_of_price :
    let price : Decimal := ⟨false, 25, 0, by decide, by decide⟩
    let price' : Decimal := ⟨false, 2500, 2, by decide, by decide⟩
    let record : Record := .ofList [("price", .number price)]
    let record' : Record := .ofList [("price", .number price')]
    let bound := OperatorTable.builtin.bindings [.operator "/", .operator " contains "]
    let sequence : List Part := [.operator " contains ", .operator "/", .field "price", .other "4",
      .field "price"]
    let actions := (ActionBook.ofBook {}).run
      [.add (.name "order") "ship" "[price] / 4 > 6", .add (.name "order") "gift" "[price] = 25.0"]
    record.get? "price" ≠ record'.get? "price" ∧ record.SameButScale record' ∧
      evaluate bound record sequence = .ok (.boolean true) ∧
      (evaluate bound record sequence).map Value.display =
        (evaluate bound record' sequence).map Value.display ∧
      actions.evaluate (.name "order") record' = .ok ["ship", "gift"] ∧
      actions.evaluate (.name "order") record = actions.evaluate (.name "order") record' := by
  intro price price' record record' bound sequence actions
  obtain ⟨hsequence, hactions, hrules⟩ := scale_does_not_matter
  have hprice : price.value = price'.value := Decimal.value_eq_iff.mpr rfl
  have hrecords : record.SameButScale record' := by
    intro name
    simp only [record, record', SortedMap.ofList, List.foldl_cons, List.foldl_nil,
      SortedMap.get?_insert]
    split
    · exact .some (.number hprice)
    · exact .none
  have hbound : OverBuiltins bound :=
    OperatorTable.overBuiltins_bindings OperatorTable.overBuiltins_builtin _
  obtain ⟨_, hdisplay, _⟩ := hsequence bound record record' sequence hbound hrecords
  have hguards (rule : Rule) (h : actions.Guards rule) : OverBuiltins rule.bound := by
    refine hrules _ rule (fun op hop => ?_) h
    simp only [List.mem_cons, List.not_mem_nil, or_false] at hop
    rcases hop with rfl | rfl <;> trivial
  obtain ⟨hinput, _⟩ := hactions actions record record' hguards hrecords
  exact ⟨by decide +kernel, hrecords, by decide +kernel, hdisplay, by decide +kernel,
    hinput (.name "order")⟩

end RuleLang
