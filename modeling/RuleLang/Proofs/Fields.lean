import RuleLang.Proofs.ActionBook.Records

/-!
# The fields of a rule are all it sees

A rule lists the fields that it refers to. **What else is in a record does not matter to it, and a
field that is missing is as good as one that is `null`** (`fields_are_all_that_is_seen`): records
that agree on the listed fields have the same value or the same error, under a name of a rule book
and for the actions of every input.

The list is read off the prefix form, which is also what is evaluated, so no look-up is left out
(`mem_fieldsOf`). Actions look at the record once more, for fields that are missing where a rule has
no value; they do so on the same list.
-/

set_option autoImplicit false

namespace RuleLang

namespace Part

variable {name : String}

theorem field?_eq_some_iff {part : Part} : part.field? = some name ↔ part = .field name := by
  cases part <;> simp [field?]

/-- The names seen so far, with those of some more parts, each once. -/
theorem mem_foldl_seen (names : List String) : ∀ {seen : List String},
    name ∈ names.foldl (fun seen name => if name ∈ seen then seen else seen ++ [name]) seen ↔
      name ∈ seen ∨ name ∈ names := by
  induction names with
  | nil => simp
  | cons first names ih =>
    intro seen
    rw [List.foldl_cons, ih, List.mem_cons, ← or_assoc]
    refine or_congr_left ?_
    split
    · next hseen =>
      constructor
      · exact .inl
      · rintro (h | rfl)
        · exact h
        · exact hseen
    · rw [List.mem_append, List.mem_singleton]

/-- **The fields of parts are those that some part refers to.** -/
theorem mem_fieldsOf {parts : List Part} : name ∈ fieldsOf parts ↔ .field name ∈ parts := by
  unfold fieldsOf
  rw [mem_foldl_seen, List.mem_filterMap]
  simp only [List.not_mem_nil, false_or, field?_eq_some_iff, exists_eq_right]

end Part

/-- Whether two records hold the same in some fields. A field that is missing holds `null`. -/
def Record.AgreeOn (fields : List String) (record record' : Record) : Prop :=
  ∀ name ∈ fields, record.field name = record'.field name

instance (fields : List String) (record record' : Record) :
    Decidable (Record.AgreeOn fields record record') :=
  inferInstanceAs (Decidable (∀ name ∈ fields, record.field name = record'.field name))

variable {record record' : Record}

/-! ## One rule -/

/-- A sequence, well formed or not, is evaluated alike on records that agree on its fields. -/
theorem evaluate_eq_of_agreeOn (bound : OperatorSet) {sequence : List Part}
    (h : Record.AgreeOn (Part.fieldsOf sequence) record record') :
    evaluate bound record sequence = evaluate bound record' sequence := by
  refine (evaluate_related (V := Eq) (List.forall₂_same.mpr fun part hpart => ?_)).eq
  cases part with
  | operator symbol => exact .operator (Evaluate.applies_self bound symbol)
  | text _ | other _ => exact .operand rfl rfl rfl
  | field name => exact .operand rfl rfl (h name (Part.mem_fieldsOf.mpr hpart))

theorem Rule.evaluate_eq_of_agreeOn {rule : Rule} (h : Record.AgreeOn rule.fields record record') :
    rule.evaluate record = rule.evaluate record' :=
  RuleLang.evaluate_eq_of_agreeOn rule.bound h

theorem ActionBook.lacksField_eq_of_agreeOn {fields : List String}
    (h : Record.AgreeOn fields record record') :
    ActionBook.lacksField record fields = ActionBook.lacksField record' fields := by
  induction fields with
  | nil => rfl
  | cons name fields ih =>
    have hrest := ih fun other hother => h other (List.mem_cons_of_mem _ hother)
    unfold lacksField at hrest ⊢
    rw [List.any_cons, List.any_cons, h name List.mem_cons_self, hrest]

theorem Rule.guardsAlike_of_agreeOn {rule : Rule} (h : Record.AgreeOn rule.fields record record') :
    rule.GuardsAlike record record' where
  value := by
    rw [Rule.evaluate_eq_of_agreeOn h]
    cases rule.evaluate record' with
    | ok value => exact .ok rfl
    | error e => exact .error trivial
  lacks := ActionBook.lacksField_eq_of_agreeOn h

/-! ## Rule books and actions -/

/-- The value under a name depends on the fields that the book lists for it. -/
theorem RuleBook.execute_eq_of_agreeOn {book : RuleBook} {name : RuleName} {fields : List String}
    (hfields : book.fields name = .ok fields) (h : Record.AgreeOn fields record record') :
    book.execute name record = book.execute name record' := by
  have hsight := book.sight_eq name
  cases hrule : book.rules.get? name with
  | none =>
    rw [hrule] at hsight
    have hnone : book.fields name = .error (.ruleNotFound name) := congrArg Sight.fields hsight
    rw [hfields] at hnone
    exact absurd hnone (by simp)
  | some rule =>
    rw [hrule] at hsight
    have hlisted : book.fields name = .ok rule.fields := congrArg Sight.fields hsight
    have hvalue : book.execute name = (rule.sight name).value := congrArg Sight.value hsight
    obtain rfl : fields = rule.fields := Except.ok.inj (hfields.symm.trans hlisted)
    rw [hvalue]
    simp only [Rule.sight, Rule.evaluate_eq_of_agreeOn h]

/-- **A rule sees the fields that it lists, and nothing else of a record.** On two records that
agree on the fields of a name, a missing field counting as `null`, every rule book has the same
value under it or the same error. On two records that agree on the fields of all rules that guard
actions, every action book has the same actions due, or the same error: for each input, and for all
inputs together, in whatever order they come as long as no more than one of them fails. -/
theorem fields_are_all_that_is_seen :
    (∀ (book : RuleBook) (name : RuleName) (fields : List String) (record record' : Record),
      book.fields name = .ok fields → Record.AgreeOn fields record record' →
        book.execute name record = book.execute name record') ∧
    ∀ (actions : ActionBook) (record record' : Record),
      (∀ rule, actions.Guards rule → Record.AgreeOn rule.fields record record') →
        (∀ input, actions.evaluate input record = actions.evaluate input record') ∧
        actions.evaluateAll record = actions.evaluateAll record' ∧
        ∀ order order' : List RuleName, order.Perm actions.inputNames →
          order'.Perm actions.inputNames → actions.AtMostOneFails record →
            actions.evaluateInOrder order record = actions.evaluateInOrder order' record' := by
  refine ⟨fun book name fields record record' hfields h => book.execute_eq_of_agreeOn hfields h,
    fun actions record record' h => ?_⟩
  have hinput : ∀ input, actions.evaluate input record = actions.evaluate input record' :=
    ActionBook.evaluate_congr fun rule hrule => Rule.guardsAlike_of_agreeOn (h rule hrule)
  exact ⟨hinput, ActionBook.evaluateAll_congr hinput, fun order order' horder horder' honly =>
    ActionBook.evaluateInOrder_congr hinput horder horder' honly⟩

/-- One record has more fields than the rules list, the other has one of the listed fields as
`null`. The first input fails on both, the second does not, whichever is asked first. -/
theorem fields_are_all_that_is_seen_of_null :
    let record : Record := .ofList [("a", .text "x"), ("c", .text "1")]
    let record' : Record := .ofList [("a", .text "x"), ("b", .null)]
    let book : RuleBook := RuleBook.run {} [.put (.name "same") "[a] = [b]"]
    let actions := (ActionBook.ofBook {}).run
      [.add (.name "age") "show" "[a] + 1 > 1", .add (.name "state") "hide" "[b] + [a] > 1"]
    book.execute (.name "same") record = book.execute (.name "same") record' ∧
    actions.evaluate (.name "state") record' = .ok [] ∧
    actions.evaluate (.name "state") record = actions.evaluate (.name "state") record' ∧
    actions.evaluateInOrder [.name "state", .name "age"] record =
      actions.evaluateInOrder [.name "age", .name "state"] record' := by
  intro record record' book actions
  obtain ⟨hrule, hactions⟩ := fields_are_all_that_is_seen
  have hguards : ∀ rule ∈ actions.book.rules.values, Record.AgreeOn rule.fields record record' := by
    decide +kernel
  obtain ⟨hinput, _, horder⟩ := hactions actions record record' fun rule h =>
    hguards rule (ActionBook.mem_values_of_guards h)
  refine ⟨?_, by decide +kernel, hinput (.name "state"), ?_⟩
  · exact hrule book (.name "same") ["a", "b"] record record'
      (by decide +kernel) (by decide +kernel)
  · have honly : actions.AtMostOneFails record := by
      unfold ActionBook.AtMostOneFails
      decide +kernel
    exact horder _ _ (by decide +kernel) (by decide +kernel) honly

end RuleLang
