import RuleLang.Operator.Table

/-!
# Tables that there can be

A table is made empty or with the built-in operators, and changed by the operations on it. Its
matcher is a cache: each change of the symbols drops it, and it is built only where it can be. So
**the matcher at hand is always that of the symbols** (`upToDate_of_reachable`), and neither what is
recognised nor whether there is a matcher at all depends on when the matcher was built
(`refusal?_of_reachable`).
-/

set_option autoImplicit false

namespace RuleLang.OperatorTable

variable [MatcherBuilder]

/-- One operation on a table. One that fails gives no table. -/
inductive Step : OperatorTable → OperatorTable → Prop where
  | insert {t t' : OperatorTable} (symbol : String) (op : Operator) :
      t.insert symbol op = .ok t' → Step t t'
  | erase (t : OperatorTable) (symbol : String) : Step t (t.erase symbol)
  | clear (t : OperatorTable) : Step t t.clear
  | rename {t t' : OperatorTable} (symbol newSymbol : String) (keep : Bool) :
      t.rename symbol newSymbol keep = .ok t' → Step t t'
  | prepare {t t' : OperatorTable} : t.prepare = .ok t' → Step t t'

inductive Reachable : OperatorTable → Prop where
  | empty : Reachable empty
  | builtin : Reachable builtin
  | step {t t' : OperatorTable} : Reachable t → Step t t' → Reachable t'

/-! ## Preparing the matcher -/

theorem prepare_eq_ok_iff {t t' : OperatorTable} :
    t.prepare = .ok t' ↔ t.refusal? = none ∧ t' = t.prepared := by
  unfold prepare
  cases t.refusal? with
  | none => simp [eq_comm]
  | some reason => simp

theorem prepare_eq_error_iff {t : OperatorTable} {e : RuleError} :
    t.prepare = .error e ↔ ∃ reason, t.refusal? = some reason ∧ e = refused reason := by
  unfold prepare
  cases t.refusal? with
  | none => simp
  | some reason => simp [eq_comm]

theorem refusal?_of_matcher_eq_none {t : OperatorTable} (h : t.matcher = none) :
    t.refusal? = MatcherBuilder.refusal? t.symbols := by
  rw [refusal?, h]

/-! ## The matcher at hand -/

/-- Whether the matcher, if there is one, is that of the symbols, and one that can be built. -/
def UpToDate (t : OperatorTable) : Prop :=
  ∀ m, t.matcher = some m → m = .ofSymbols t.symbols ∧ MatcherBuilder.refusal? t.symbols = none

theorem upToDate_of_matcher_eq_none {t : OperatorTable} (h : t.matcher = none) : t.UpToDate := by
  intro m hm
  rw [h] at hm
  exact absurd hm (by simp)

theorem currentMatcher_of_upToDate {t : OperatorTable} (h : t.UpToDate) :
    t.currentMatcher = .ofSymbols t.symbols := by
  unfold currentMatcher
  cases hm : t.matcher with
  | none => rfl
  | some m => exact (h m hm).1

/-- Whether the matcher is refused is a matter of the symbols. -/
theorem refusal?_of_upToDate {t : OperatorTable} (h : t.UpToDate) :
    t.refusal? = MatcherBuilder.refusal? t.symbols := by
  cases hm : t.matcher with
  | none => exact refusal?_of_matcher_eq_none hm
  | some m => rw [refusal?, hm, (h m hm).2]

omit [MatcherBuilder] in
theorem matcher_of_insert {t t' : OperatorTable} {symbol : String} {op : Operator}
    (h : t.insert symbol op = .ok t') : t'.matcher = none := by
  unfold OperatorTable.insert at h
  split at h
  · exact absurd h (by simp)
  · rw [← Except.ok.inj h]

theorem upToDate_step {t t' : OperatorTable} (h : t.UpToDate) (hstep : Step t t') :
    t'.UpToDate := by
  cases hstep with
  | insert symbol op hinsert => exact upToDate_of_matcher_eq_none (matcher_of_insert hinsert)
  | erase symbol =>
    unfold OperatorTable.erase
    split
    · exact upToDate_of_matcher_eq_none rfl
    · exact h
  | clear => exact upToDate_of_matcher_eq_none rfl
  | rename symbol newSymbol keep hrename =>
    unfold OperatorTable.rename at hrename
    split at hrename
    · exact absurd hrename (by simp)
    · exact upToDate_of_matcher_eq_none (matcher_of_insert hrename)
  | prepare hprepare =>
    obtain ⟨haccepted, rfl⟩ := prepare_eq_ok_iff.mp hprepare
    intro m hm
    refine ⟨(Option.some.inj hm).symm.trans (currentMatcher_of_upToDate h), ?_⟩
    exact (refusal?_of_upToDate h).symm.trans haccepted

/-- **The matcher of a table is never out of date.** -/
theorem upToDate_of_reachable {t : OperatorTable} (h : t.Reachable) : t.UpToDate := by
  induction h with
  | empty => exact upToDate_of_matcher_eq_none rfl
  | builtin => exact upToDate_of_matcher_eq_none rfl
  | step _ hstep ih => exact upToDate_step ih hstep

theorem currentMatcher_of_reachable {t : OperatorTable} (h : t.Reachable) :
    t.currentMatcher = .ofSymbols t.symbols :=
  currentMatcher_of_upToDate (upToDate_of_reachable h)

/-- **A table is refused a matcher exactly if its symbols are.** -/
theorem refusal?_of_reachable {t : OperatorTable} (h : t.Reachable) :
    t.refusal? = MatcherBuilder.refusal? t.symbols :=
  refusal?_of_upToDate (upToDate_of_reachable h)

end RuleLang.OperatorTable
