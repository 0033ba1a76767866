import RuleLang.Proofs.ActionBook.Run
import RuleLang.Proofs.Operator.Changes
import RuleLang.Proofs.RuleBook.History

/-!
# Books over the built-in operators

The built-in operators may be given other symbols and other priorities. A book that is given no
other operators binds none: **all its rules compute with what is built in** (`run_overBuiltins`),
and so do the rules of an action book (`ActionBook.run_overBuiltins`).
-/

set_option autoImplicit false

namespace RuleLang

/-- Whether an operator computes what a built-in one does, whatever its priority. -/
def Operator.IsBuiltin (op : Operator) : Prop := ∃ e ∈ builtins, op.apply = e.2.apply

/-- Whether every operator that is bound is a built-in one, whatever it is bound to. -/
def OverBuiltins (bound : OperatorSet) : Prop :=
  ∀ k op, bound.get? k = some op → op.IsBuiltin

/-! ## Tables -/

namespace OperatorTable

def OverBuiltins (t : OperatorTable) : Prop :=
  ∀ symbol op, t.get? symbol = some op → op.IsBuiltin

variable {t t' : OperatorTable}

theorem overBuiltins_bindings (h : t.OverBuiltins) (parts : List Part) :
    RuleLang.OverBuiltins (t.bindings parts) := by
  intro k op hop
  obtain ⟨symbol, _, _, hget⟩ := get?_bindings_iff.mp hop
  exact h symbol op hget

theorem overBuiltins_of_entries (h : t.OverBuiltins) (hentries : t.entries = t'.entries) :
    t'.OverBuiltins := by
  intro symbol op hop
  rw [← get?_eq_of_entries hentries] at hop
  exact h symbol op hop

theorem overBuiltins_empty : empty.OverBuiltins := by
  intro symbol op hop
  exact absurd hop (by simp [get?, empty])

theorem overBuiltins_builtin : builtin.OverBuiltins := by
  intro symbol op hop
  obtain ⟨entry, hentry, rfl⟩ := Option.map_eq_some_iff.mp hop
  obtain ⟨e, he, -, rfl⟩ := exists_builtin_of_get? hentry
  exact ⟨e, he, rfl⟩

theorem overBuiltins_insert (h : t.OverBuiltins) {symbol : String} {op : Operator}
    (hop : op.IsBuiltin) (hinsert : t.insert symbol op = .ok t') : t'.OverBuiltins := by
  intro other op' hother
  rw [get?_insert hinsert] at hother
  split at hother
  · rwa [← Option.some.inj hother]
  · exact h other op' hother

theorem overBuiltins_erase (h : t.OverBuiltins) (symbol : String) :
    (t.erase symbol).OverBuiltins := by
  intro other op hother
  rw [get?_erase] at hother
  split at hother
  · exact absurd hother (by simp)
  · exact h other op hother

theorem overBuiltins_rename (h : t.OverBuiltins) {symbol newSymbol : String} {keep : Bool}
    (hrename : t.rename symbol newSymbol keep = .ok t') : t'.OverBuiltins := by
  intro other op' hother
  obtain ⟨op, hget, -⟩ := rename_eq_ok_iff.mp hrename
  rw [get?_rename hrename hget] at hother
  split at hother
  · rw [← Option.some.inj hother]
    exact h symbol op hget
  · split at hother
    · exact absurd hother (by simp)
    · exact h other op' hother

end OperatorTable

/-! ## Rule books -/

namespace RuleBook

/-- Whether a book has built-in operators only, in its table and in its rules. -/
structure OverBuiltins (book : RuleBook) : Prop where
  operators : book.operators.OverBuiltins
  rules : ∀ {name rule}, book.rules.get? name = some rule → RuleLang.OverBuiltins rule.bound

/-- Whether an operation adds no other operators than the built-in ones. -/
def Operation.AddsBuiltins : Operation → Prop
  | .addOperator _ op => op.IsBuiltin
  | _ => True

variable {book : RuleBook}

theorem overBuiltins_of_no_rules (h : book.rules = .empty)
    (hoperators : book.operators.OverBuiltins) : book.OverBuiltins where
  operators := hoperators
  rules := by
    intro name rule hrule
    rw [h] at hrule
    exact absurd hrule (by simp)

section Builder

variable [MatcherBuilder]

theorem put_entries (book : RuleBook) (name : RuleName) (source : String) :
    (book.put name source).2.operators.entries = book.operators.entries := by
  rw [put_operators]
  rcases book.compile_after source with h | ⟨-, h⟩ <;> rw [h]
  rfl

omit [MatcherBuilder] in
theorem withOperators_overBuiltins (h : book.operators.OverBuiltins)
    {operators : Except RuleError OperatorTable}
    (hoperators : ∀ t, operators = .ok t → t.OverBuiltins) :
    (book.withOperators operators).2.operators.OverBuiltins := by
  cases operators with
  | ok t => exact hoperators t rfl
  | error e => exact h

theorem perform_operators_overBuiltins {op : Operation} (h : book.operators.OverBuiltins)
    (hop : op.AddsBuiltins) : (book.perform op).2.operators.OverBuiltins := by
  cases op with
  | add name source =>
    show (book.add name source).2.operators.OverBuiltins
    cases hname : book.contains name with
    | true => rwa [add_of_taken hname]
    | false =>
      rw [add_of_free hname]
      exact OperatorTable.overBuiltins_of_entries h (book.put_entries name source).symm
  | put name source =>
    exact OperatorTable.overBuiltins_of_entries h (book.put_entries name source).symm
  | compile source =>
    show (book.compile source).2.operators.OverBuiltins
    rcases book.compile_after source with hafter | ⟨-, hafter⟩ <;> rw [hafter]
    · exact h
    · exact OperatorTable.overBuiltins_of_entries h rfl
  | erase name => exact h
  | addOperator symbol op =>
    exact withOperators_overBuiltins h fun t hinsert =>
      OperatorTable.overBuiltins_insert h hop hinsert
  | eraseOperator symbol => exact OperatorTable.overBuiltins_erase h symbol
  | clearOperators => exact OperatorTable.overBuiltins_empty
  | renameOperator symbol newSymbol keep =>
    exact withOperators_overBuiltins h fun t hrename =>
      OperatorTable.overBuiltins_rename h hrename

/-- **Every operation that adds no other operators keeps a book over the built-in ones.** -/
theorem perform_overBuiltins {op : Operation} (h : book.OverBuiltins) (hop : op.AddsBuiltins) :
    (book.perform op).2.OverBuiltins where
  operators := perform_operators_overBuiltins h.operators hop
  rules := by
    intro name rule hrule
    have heffect := book.perform_effect op
    generalize (book.perform op).1 = answer at heffect
    generalize (book.perform op).2.rules = rules at heffect hrule
    cases heffect with
    | kept _ hnew =>
      rw [SortedMap.get?_insert] at hrule
      split at hrule
      · obtain ⟨_, _, sequence, _, _, hbound⟩ :=
          compile_eq_ok_iff.mp (ruleFor_eq_ok_iff.mp hnew).1
        rw [← Option.some.inj hrule, hbound]
        exact OperatorTable.overBuiltins_bindings h.operators sequence
      · exact h.rules hrule
    | refused e _ => exact h.rules hrule
    | erased name =>
      rw [SortedMap.get?_erase] at hrule
      split at hrule
      · exact absurd hrule (by simp)
      · exact h.rules hrule
    | other _ _ => exact h.rules hrule

end Builder

end RuleBook

/-! ## Action books -/

namespace ActionBook

def Operation.AddsBuiltins : Operation → Prop
  | .book op => op.AddsBuiltins
  | _ => True

variable [MatcherBuilder]

/-- An operation of an action book is at most one operation of its rule book. -/
theorem perform_book (actions : ActionBook) {op : Operation} (hop : op.AddsBuiltins) :
    (actions.perform op).2.book = actions.book ∨
      ∃ bookOp : RuleBook.Operation, bookOp.AddsBuiltins ∧
        (actions.perform op).2.book = (actions.book.perform bookOp).2 := by
  cases op with
  | add input action source =>
    simp only [perform, add]
    cases actions.ruleOf? input action with
    | some id => exact .inl rfl
    | none =>
      right
      refine ⟨.add (.id (leastFreeId actions.book actions.nextId)) source, trivial, ?_⟩
      show _ = (actions.book.add _ source).2
      rcases actions.book.add (.id (leastFreeId actions.book actions.nextId)) source with
        ⟨e | _, after⟩ <;> rfl
  | update input action source =>
    simp only [perform, update]
    cases actions.ruleOf input action with
    | error e => exact .inl rfl
    | ok id => exact .inr ⟨.put (.id id) source, trivial, rfl⟩
  | erase input action =>
    simp only [perform, erase]
    cases actions.ruleOf? input action with
    | none => exact .inl rfl
    | some id => exact .inr ⟨.erase (.id id), trivial, rfl⟩
  | book op => exact .inr ⟨op, hop, rfl⟩

/-- **The rules of an action book that is given no other operators compute with what is built
in.** -/
theorem run_overBuiltins (ops : List Operation) : ∀ {actions : ActionBook},
    actions.book.OverBuiltins → (∀ op ∈ ops, op.AddsBuiltins) →
      (actions.run ops).book.OverBuiltins := by
  induction ops with
  | nil => exact fun h _ => h
  | cons op ops ih =>
    intro actions h hops
    refine ih ?_ fun other hmem => hops other (List.mem_cons_of_mem _ hmem)
    rcases actions.perform_book (hops op List.mem_cons_self) with hsame | ⟨bookOp, hadds, hbook⟩
    · rwa [hsame]
    · rw [hbook]
      exact RuleBook.perform_overBuiltins h hadds

end ActionBook

end RuleLang
