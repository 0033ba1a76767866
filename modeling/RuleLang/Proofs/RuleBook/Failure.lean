import RuleLang.Proofs.RuleBook.History
import RuleLang.Proofs.RuleBook.InPlace

/-!
# Failures

An operation may fail after it has begun: when the text is cut, when its prefix form is made, in the
dry run, or because there is no room for one rule more. Main statement: **a failed operation changes
nothing but, at most, whether the matcher is at hand** (`failure_changes_nothing`), though the
operations write in place; and only one that cuts a text may leave a matcher.

Books that differ in nothing but the matcher answer alike and stay so (`perform_congr`), so the
failed operations can be struck out of every run (`run_succeeding`).
-/

set_option autoImplicit false

namespace RuleLang.RuleBook

/-! ## Books that differ in the matcher -/

/-- Whether two books have the same rules, limits and operators. -/
structure SameButMatcher (book book' : RuleBook) : Prop where
  rules : book.rules = book'.rules
  limits : book.limits = book'.limits
  entries : book.operators.entries = book'.operators.entries

variable {book book' book'' : RuleBook}

namespace SameButMatcher

theorem refl (book : RuleBook) : book.SameButMatcher book := ⟨rfl, rfl, rfl⟩

theorem symm (h : book.SameButMatcher book') : book'.SameButMatcher book :=
  ⟨h.rules.symm, h.limits.symm, h.entries.symm⟩

theorem trans (h : book.SameButMatcher book') (h' : book'.SameButMatcher book'') :
    book.SameButMatcher book'' :=
  ⟨h.rules.trans h'.rules, h.limits.trans h'.limits, h.entries.trans h'.entries⟩

theorem contains_eq (h : book.SameButMatcher book') (name : RuleName) :
    book.contains name = book'.contains name := by
  rw [RuleBook.contains, RuleBook.contains, h.rules]

theorem of_compile [MatcherBuilder] (book : RuleBook) (source : String) :
    (book.compile source).2.SameButMatcher book := by
  rcases book.compile_after source with h | ⟨-, h⟩ <;> rw [h] <;> exact ⟨rfl, rfl, rfl⟩

theorem compile [MatcherBuilder] (h : book.SameButMatcher book') (source : String) :
    (book.compile source).2.SameButMatcher (book'.compile source).2 :=
  (of_compile book source).trans (h.trans (of_compile book' source).symm)

theorem withOperators (h : book.SameButMatcher book')
    {operators operators' : Except RuleError OperatorTable} (hoperators : operators = operators') :
    (book.withOperators operators).1 = (book'.withOperators operators').1 ∧
      (book.withOperators operators).2.SameButMatcher (book'.withOperators operators').2 := by
  subst hoperators
  cases operators with
  | ok t => exact ⟨rfl, h.rules, h.limits, rfl⟩
  | error e => exact ⟨rfl, h⟩

section Reachable

variable [MatcherBuilder] (h : book.SameButMatcher book') (hbook : book.operators.Reachable)
  (hbook' : book'.operators.Reachable)
include h hbook hbook'

theorem compile_eq (source : String) : (book.compile source).1 = (book'.compile source).1 :=
  compile_eq_of_entries (OperatorTable.upToDate_of_reachable hbook)
    (OperatorTable.upToDate_of_reachable hbook') h.entries h.limits source

theorem ruleFor_eq (name : RuleName) (source : String) :
    book.ruleFor name source = book'.ruleFor name source := by
  unfold ruleFor
  rw [h.compile_eq hbook hbook', h.contains_eq, h.rules, h.limits]

theorem put (name : RuleName) (source : String) :
    (book.put name source).1 = (book'.put name source).1 ∧
      (book.put name source).2.SameButMatcher (book'.put name source).2 := by
  have hcompile := h.compile source
  rw [put_eq, put_eq, h.ruleFor_eq hbook hbook']
  cases book'.ruleFor name source with
  | error e => exact ⟨rfl, hcompile⟩
  | ok rule =>
    refine ⟨rfl, ?_, hcompile.limits, hcompile.entries⟩
    show book.rules.insert name rule = book'.rules.insert name rule
    rw [h.rules]

/-- **Books that differ in the matcher alone answer every operation alike**, and differ in the
matcher alone afterwards. -/
theorem perform (op : Operation) :
    (book.perform op).1 = (book'.perform op).1 ∧
      (book.perform op).2.SameButMatcher (book'.perform op).2 := by
  cases op with
  | add name source =>
    show (book.add name source).1 = (book'.add name source).1 ∧
      (book.add name source).2.SameButMatcher (book'.add name source).2
    cases hname : book.contains name with
    | true =>
      rw [add_of_taken hname, add_of_taken (h.contains_eq name ▸ hname)]
      exact ⟨rfl, h⟩
    | false =>
      rw [add_of_free hname, add_of_free (h.contains_eq name ▸ hname)]
      exact h.put hbook hbook' name source
  | put name source => exact h.put hbook hbook' name source
  | compile source =>
    refine ⟨?_, h.compile source⟩
    exact congrArg (Except.map fun _ => ()) (h.compile_eq hbook hbook' source)
  | erase name =>
    refine ⟨rfl, ?_, h.limits, h.entries⟩
    show book.rules.erase name = book'.rules.erase name
    rw [h.rules]
  | addOperator symbol op =>
    exact h.withOperators (OperatorTable.insert_eq_of_entries h.entries symbol op)
  | eraseOperator symbol =>
    refine ⟨rfl, h.rules, h.limits, ?_⟩
    show (book.operators.erase symbol).entries = (book'.operators.erase symbol).entries
    rw [OperatorTable.erase_entries, OperatorTable.erase_entries, h.entries]
  | clearOperators => exact ⟨rfl, h.rules, h.limits, rfl⟩
  | renameOperator symbol newSymbol keep =>
    exact h.withOperators (OperatorTable.rename_eq_of_entries h.entries symbol newSymbol keep)

end Reachable

end SameButMatcher

/-! ## One failure -/

/-- Whether an operation has a text compiled. -/
def Operation.compiles : Operation → Bool
  | .add _ _ | .put _ _ | .compile _ => true
  | _ => false

theorem withOperators_of_error {operators : Except RuleError OperatorTable} {e : RuleError}
    (h : (book.withOperators operators).1 = .error e) :
    (book.withOperators operators).2 = book := by
  cases operators with
  | ok t => exact absurd h (by simp [RuleBook.withOperators])
  | error e => rfl

section Builder

variable [MatcherBuilder]

theorem put_of_error {name : RuleName} {source : String} {e : RuleError}
    (h : (book.put name source).1 = .error e) :
    (book.put name source).2 = (book.compile source).2 := by
  rw [put_eq] at h ⊢
  cases hrule : book.ruleFor name source with
  | ok rule =>
    rw [hrule] at h
    exact absurd h (by simp)
  | error e => rfl

/-- **A failed operation leaves the book as it was**, or, if it has a text compiled, with the
matcher at hand. -/
theorem perform_of_error {op : Operation} {e : RuleError} (h : (book.perform op).1 = .error e) :
    (book.perform op).2 = book ∨
      op.compiles = true ∧
        (book.perform op).2 = { book with operators := book.operators.prepared } := by
  cases op with
  | add name source =>
    have hadd : (book.add name source).1 = .error e := h
    show (book.add name source).2 = book ∨ _ ∧ (book.add name source).2 = _
    cases hname : book.contains name with
    | true => exact .inl (by rw [add_of_taken hname])
    | false =>
      rw [add_of_free hname] at hadd ⊢
      rw [put_of_error hadd]
      exact (book.compile_after source).imp_right fun hafter => ⟨rfl, hafter.2⟩
  | put name source =>
    show (book.put name source).2 = book ∨ _ ∧ (book.put name source).2 = _
    rw [put_of_error h]
    exact (book.compile_after source).imp_right fun hafter => ⟨rfl, hafter.2⟩
  | compile source => exact (book.compile_after source).imp_right fun hafter => ⟨rfl, hafter.2⟩
  | addOperator symbol op => exact .inl (withOperators_of_error h)
  | renameOperator symbol newSymbol keep => exact .inl (withOperators_of_error h)
  | erase _ | eraseOperator _ | clearOperators => exact absurd h (by simp [perform])

theorem sameButMatcher_of_error {op : Operation} {e : RuleError}
    (h : (book.perform op).1 = .error e) : (book.perform op).2.SameButMatcher book := by
  rcases perform_of_error h with h | ⟨_, h⟩ <;> rw [h] <;> exact ⟨rfl, rfl, rfl⟩

/-! ## Failures in a run -/

/-- The operations of a run that do not fail. -/
def succeeding (book : RuleBook) : List Operation → List Operation
  | [] => []
  | op :: ops =>
    match (book.perform op).1 with
    | .ok _ => op :: (book.perform op).2.succeeding ops
    | .error _ => (book.perform op).2.succeeding ops

/-- What is answered to some operations, done one after the other. -/
def answers (book : RuleBook) : List Operation → List (Except RuleError Unit)
  | [] => []
  | op :: ops => (book.perform op).1 :: (book.perform op).2.answers ops

theorem reachable_perform (h : book.operators.Reachable) (op : Operation) :
    (book.perform op).2.operators.Reachable :=
  reachable_run [op] h

theorem SameButMatcher.answers (ops : List Operation) : ∀ {book book' : RuleBook},
    book.SameButMatcher book' → book.operators.Reachable → book'.operators.Reachable →
      book.answers ops = book'.answers ops := by
  induction ops with
  | nil => exact fun _ _ _ => rfl
  | cons op ops ih =>
    intro book book' h hbook hbook'
    obtain ⟨hanswer, hafter⟩ := h.perform hbook hbook' op
    rw [RuleBook.answers, RuleBook.answers, hanswer,
      ih hafter (reachable_perform hbook op) (reachable_perform hbook' op)]

/-- Without the operations that fail, a run ends in the same book. -/
theorem SameButMatcher.run_succeeding (ops : List Operation) : ∀ {book book' : RuleBook},
    book.SameButMatcher book' → book.operators.Reachable → book'.operators.Reachable →
      (book.run ops).SameButMatcher (book'.run (book.succeeding ops)) := by
  induction ops with
  | nil => exact fun h _ _ => h
  | cons op ops ih =>
    intro book book' h hbook hbook'
    obtain ⟨-, hafter⟩ := h.perform hbook hbook' op
    have hreachable := reachable_perform hbook op
    rw [succeeding]
    cases hanswer : (book.perform op).1 with
    | ok _ => exact ih hafter hreachable (reachable_perform hbook' op)
    | error e => exact ih ((sameButMatcher_of_error hanswer).trans h) hreachable hbook'

/-- **Failed operations change nothing.** After one, a book has the same rules under the same names,
the same limits and the same operators; it is the very same book, unless the operation has a text
compiled, which may leave the matcher at hand. Nothing that is asked later is answered otherwise,
and a run ends in the same rules, limits and operators without the operations that fail in it.
Compiling changes no more when it succeeds. All this holds of the operations as they write in place.
-/
theorem failure_changes_nothing {operators : OperatorTable} (limits : Limits)
    (before : List Operation) (h : operators.Reachable) :
    let book := run { operators, limits } before
    (∀ op e, (book.perform op).1 = .error e →
      let after := (book.perform op).2
      after.names = book.names ∧ (∀ name, after.rule name = book.rule name) ∧
        after.limits = book.limits ∧ after.operators.entries = book.operators.entries ∧
        (after = book ∨
          op.compiles = true ∧ after = { book with operators := book.operators.prepared }) ∧
        ∀ later, after.answers later = book.answers later) ∧
    (∀ ops, (book.run ops).SameButMatcher (book.run (book.succeeding ops))) ∧
    (∀ source, (book.compile source).2.SameButMatcher book) ∧
    ∀ op, (Program.ofOperation op).result book = book.perform op := by
  intro book
  have hbook : book.operators.Reachable := reachable_run before h
  refine ⟨fun op e herror => ?_, fun ops => ?_, SameButMatcher.of_compile book,
    Program.result_ofOperation book⟩
  · have hafter := sameButMatcher_of_error herror
    refine ⟨congrArg SortedMap.keys hafter.rules, fun name => ?_, hafter.limits, hafter.entries,
      perform_of_error herror,
      fun later => hafter.answers later (reachable_perform hbook op) hbook⟩
    rw [rule, rule, hafter.rules]
  · exact (SameButMatcher.refl book).run_succeeding ops hbook hbook

end Builder

/-- A book with room for one rule refuses a second one, a bad text for the first one, and an empty
symbol: it keeps its rule, and the operator that was to be renamed. -/
theorem failure_changes_nothing_at_limit :
    let book : RuleBook :=
      run { operators := .builtin, limits := { maxRules := 1 } } [.put (.id 1) "[a] = 1"]
    let second := book.perform (.put (.id 2) "[b] = 2")
    let bad := book.perform (.put (.id 1) "[b] =")
    let nameless := book.perform (.renameOperator "=" "" false)
    OperatorTable.builtin.Reachable ∧
      second.1 = .error (.limitExceeded .rules 1 2) ∧ second.2.names = book.names ∧
      bad.1 = .error (.invalidExpression (.rule "[b] =")) ∧
      bad.2.rule (.id 1) = book.rule (.id 1) ∧
      nameless.1 = .error (.invalidOperator "") ∧ nameless.2 = book := by
  intro book second bad nameless
  have hsecond : second.1 = .error (.limitExceeded .rules 1 2) := by decide +kernel
  have hbad : bad.1 = .error (.invalidExpression (.rule "[b] =")) := by decide +kernel
  have hnameless : nameless.1 = .error (.invalidOperator "") := by decide +kernel
  obtain ⟨hfailure, -⟩ :=
    failure_changes_nothing { maxRules := 1 } [.put (.id 1) "[a] = 1"] .builtin
  obtain ⟨hnames, -⟩ := hfailure _ _ hsecond
  obtain ⟨-, hrule, -⟩ := hfailure _ _ hbad
  obtain ⟨-, -, -, -, hsame | ⟨hcompiles, -⟩, -⟩ := hfailure _ _ hnameless
  · exact ⟨.builtin, hsecond, hnames, hbad, hrule (.id 1), hnameless, hsame⟩
  · exact absurd hcompiles (by decide)

end RuleLang.RuleBook
