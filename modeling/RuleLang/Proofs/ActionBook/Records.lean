import RuleLang.Proofs.Alike
import RuleLang.Proofs.ActionBook.Refinement

/-!
# Actions on two records

An action book looks at a record through its rules only: at the truth of their values, at whether
they have one, and at whether one of their fields is missing where they have none. **Records on
which all its rules guard alike lead to the same actions** (`evaluate_congr`), of one input and of
all of them.

The answer for all inputs is put together input by input. Nothing says which input comes first, so
a failure that ends the search may be that of any input that fails; **if no more than one of them
does, the answer is the same in whatever order they come** (`evaluateInOrder_eq_of_perm`).
-/

set_option autoImplicit false

namespace RuleLang

/-- Whether a rule guards in the same way on two records: it has values that count alike as true, or
none on either, and its fields are all there on both or on neither. -/
structure Rule.GuardsAlike (record record' : Record) (rule : Rule) : Prop where
  value : Outcome (fun _ _ => True) (fun value value' => value.truthy = value'.truthy)
    (rule.evaluate record) (rule.evaluate record')
  lacks : ActionBook.lacksField record rule.fields = ActionBook.lacksField record' rule.fields

namespace Entry

variable {record record' : Record} {entry : Entry}

theorem triggers_congr (h : entry.rule.GuardsAlike record record') :
    entry.triggers record = entry.triggers record' := by
  have hvalue := h.value
  unfold triggers
  generalize entry.rule.evaluate record = result at hvalue ⊢
  generalize entry.rule.evaluate record' = result' at hvalue ⊢
  cases hvalue with
  | ok htruthy => exact htruthy
  | error _ => rfl

theorem failure?_congr (h : entry.rule.GuardsAlike record record') (input : RuleName) :
    entry.failure? input record = entry.failure? input record' := by
  have hvalue := h.value
  unfold failure?
  rw [h.lacks]
  generalize entry.rule.evaluate record = result at hvalue ⊢
  generalize entry.rule.evaluate record' = result' at hvalue ⊢
  cases hvalue with
  | ok _ => rfl
  | error _ => rfl

end Entry

namespace ActionBook

variable {actions : ActionBook} {record record' : Record} {input : RuleName}

/-- Whether a rule guards an action. -/
def Guards (actions : ActionBook) (rule : Rule) : Prop :=
  ∃ input, ∃ guarded ∈ actions.guardedOf input,
    actions.book.rules.get? (.id guarded.rule) = some rule

/-! ## One input -/

/-- An action whose rule is gone has no answer, whatever the record. -/
theorem isDue_of_missing {guarded : Guarded}
    (h : actions.book.rules.get? (.id guarded.rule) = none) (record : Record) :
    actions.isDue input record guarded = .error (.ruleNotFound (.id guarded.rule)) := by
  have hsight : actions.book.sight (.id guarded.rule) = .nothing (.id guarded.rule) := by
    rw [RuleBook.sight_eq, h]
  have hvalue := congrFun (congrArg Sight.value hsight) record
  simp only [RuleBook.sight, Sight.nothing] at hvalue
  unfold isDue
  rw [hvalue]

theorem isDue_congr {guarded : Guarded}
    (h : ∀ rule, actions.book.rules.get? (.id guarded.rule) = some rule →
      rule.GuardsAlike record record') :
    actions.isDue input record guarded = actions.isDue input record' guarded := by
  cases hrule : actions.book.rules.get? (.id guarded.rule) with
  | none => rw [isDue_of_missing hrule, isDue_of_missing hrule]
  | some rule =>
    have hstands : StandsFor actions.book.rules guarded ⟨guarded.action, rule⟩ := ⟨rfl, hrule⟩
    have halike : Rule.GuardsAlike record record' (Entry.mk guarded.action rule).rule :=
      h rule hrule
    rw [isDue_eq hstands, isDue_eq hstands, Entry.failure?_congr halike,
      Entry.triggers_congr halike]

theorem dueAmong_congr {list : List Guarded}
    (h : ∀ guarded ∈ list,
      actions.isDue input record guarded = actions.isDue input record' guarded) :
    actions.dueAmong input record list = actions.dueAmong input record' list := by
  induction list with
  | nil => rfl
  | cons guarded list ih =>
    rw [dueAmong, dueAmong, h guarded List.mem_cons_self,
      ih fun other hmem => h other (List.mem_cons_of_mem _ hmem)]

/-- **Records on which all rules guard alike lead to the same actions.** -/
theorem evaluate_congr (h : ∀ rule, actions.Guards rule → rule.GuardsAlike record record')
    (input : RuleName) : actions.evaluate input record = actions.evaluate input record' := by
  refine dueAmong_congr fun guarded hmem => isDue_congr fun rule hrule => ?_
  exact h rule ⟨input, guarded, hmem, hrule⟩

/-! ## All inputs -/

theorem evaluateAll_congr
    (h : ∀ input, actions.evaluate input record = actions.evaluate input record') :
    actions.evaluateAll record = actions.evaluateAll record' := by
  unfold evaluateAll
  simp only [h]

/-- The actions that are due, of inputs that come in some order: `evaluateAll` keeps to the order of
their names. -/
def evaluateInOrder (actions : ActionBook) (order : List RuleName) (record : Record) :
    Except RuleError (SortedMap RuleName (List String)) :=
  (order.mapM fun input => (actions.evaluate input record).map fun due => (input, due)).map
    SortedMap.ofList

/-- Whether no two inputs fail on a record. -/
def AtMostOneFails (actions : ActionBook) (record : Record) : Prop :=
  ∀ input ∈ actions.inputNames, ∀ input' ∈ actions.inputNames,
    (actions.evaluate input record).isOk = false →
      (actions.evaluate input' record).isOk = false → input = input'

/-- If one input fails, and no other one, it fails for all of them. -/
theorem evaluateInOrder_of_error {order : List RuleName} {e : RuleError}
    (hmem : input ∈ order) (hfails : actions.evaluate input record = .error e)
    (honly : ∀ other ∈ order, (actions.evaluate other record).isOk = false → other = input) :
    actions.evaluateInOrder order record = .error e := by
  have hmap : (order.mapM fun input =>
      (actions.evaluate input record).map fun due => (input, due)) = .error e := by
    induction order with
    | nil => exact absurd hmem List.not_mem_nil
    | cons first order ih =>
      rw [List.mapM_cons]
      cases hfirst : actions.evaluate first record with
      | error e' =>
        obtain rfl := honly first List.mem_cons_self (by rw [hfirst]; rfl)
        obtain rfl : e' = e := Except.error.inj (hfirst.symm.trans hfails)
        rfl
      | ok due =>
        have hne : input ≠ first := by
          rintro rfl
          rw [hfails] at hfirst
          exact absurd hfirst (by simp)
        have hrest := ih ((List.mem_cons.mp hmem).resolve_left hne) fun other hother =>
          honly other (List.mem_cons_of_mem _ hother)
        rw [hrest]
        rfl
  rw [evaluateInOrder, hmap]
  rfl

/-- If no input fails, every input has its actions. -/
theorem evaluateInOrder_of_ok {order : List RuleName} {due : RuleName → List String}
    (h : ∀ input ∈ order, actions.evaluate input record = .ok (due input)) :
    actions.evaluateInOrder order record =
      .ok (.ofList (order.map fun input => (input, due input))) := by
  have hmap : (order.mapM fun input =>
      (actions.evaluate input record).map fun due => (input, due)) =
        .ok (order.map fun input => (input, due input)) := by
    induction order with
    | nil => rfl
    | cons first order ih =>
      rw [List.mapM_cons, h first List.mem_cons_self,
        ih fun other hother => h other (List.mem_cons_of_mem _ hother)]
      rfl
  rw [evaluateInOrder, hmap]
  rfl

/-- **If no more than one input fails, the order of the inputs does not matter.** -/
theorem evaluateInOrder_eq_of_perm {order order' : List RuleName}
    (horder : order.Perm actions.inputNames) (horder' : order'.Perm actions.inputNames)
    (honly : actions.AtMostOneFails record) :
    actions.evaluateInOrder order record = actions.evaluateInOrder order' record := by
  by_cases hall : ∀ input ∈ actions.inputNames, (actions.evaluate input record).isOk = true
  · -- Every input has its actions, and a map does not tell in which order they were put into it.
    let due (input : RuleName) : List String :=
      match actions.evaluate input record with
      | .ok due => due
      | .error _ => []
    have hdue : ∀ input ∈ actions.inputNames, actions.evaluate input record = .ok (due input) := by
      intro input hmem
      have hok := hall input hmem
      cases hinput : actions.evaluate input record with
      | ok list => simp only [due, hinput]
      | error e => simp [hinput, Except.isOk, Except.toBool] at hok
    rw [evaluateInOrder_of_ok fun input hmem => hdue input (horder.mem_iff.mp hmem),
      evaluateInOrder_of_ok fun input hmem => hdue input (horder'.mem_iff.mp hmem)]
    have hkeys : ((order.map fun input => (input, due input)).map Prod.fst).Nodup := by
      rw [List.map_map, show Prod.fst ∘ (fun input => (input, due input)) = id from rfl,
        List.map_id]
      exact horder.nodup_iff.mpr actions.inputs.nodup_keys
    rw [SortedMap.ofList_eq_of_perm ((horder.trans horder'.symm).map _) hkeys]
  · obtain ⟨input, hmem, hnot⟩ : ∃ input ∈ actions.inputNames,
        ¬ (actions.evaluate input record).isOk = true := by
      simpa only [not_forall, exists_prop] using hall
    cases hfails : actions.evaluate input record with
    | ok due => exact absurd (by rw [hfails]; rfl) hnot
    | error e =>
      have hthis {order : List RuleName} (h : order.Perm actions.inputNames) :
          actions.evaluateInOrder order record = .error e := by
        refine evaluateInOrder_of_error (h.mem_iff.mpr hmem) hfails fun other hother hfails' => ?_
        exact honly other (h.mem_iff.mp hother) input hmem hfails' (by rw [hfails]; rfl)
      rw [hthis horder, hthis horder']

/-- Records on which every input leads to the same lead to the same in any orders of the inputs. -/
theorem evaluateInOrder_congr
    (h : ∀ input, actions.evaluate input record = actions.evaluate input record')
    {order order' : List RuleName} (horder : order.Perm actions.inputNames)
    (horder' : order'.Perm actions.inputNames) (honly : actions.AtMostOneFails record) :
    actions.evaluateInOrder order record = actions.evaluateInOrder order' record' := by
  rw [evaluateInOrder_eq_of_perm horder horder' honly]
  unfold evaluateInOrder
  simp only [h]

/-- A rule that guards an action is in the rule book. -/
theorem mem_values_of_guards {rule : Rule} (h : actions.Guards rule) :
    rule ∈ actions.book.rules.values := by
  obtain ⟨input, guarded, _, hrule⟩ := h
  exact SortedMap.mem_values_iff.mpr ⟨_, hrule⟩

end ActionBook

end RuleLang
