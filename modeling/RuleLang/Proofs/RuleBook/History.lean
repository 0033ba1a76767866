import RuleLang.Proofs.Operator.Rebuilding
import RuleLang.Proofs.RuleBook.Invariant

/-!
# What was asked before does not matter

Tables and books are changed in place, and a table keeps the matcher it built. Main statement:
**what a rule is cut into and compiled to depends on the entries of the table and on the limits, and
on nothing that was asked before** (`history_does_not_matter`).

An operation of a book is at most one step of its table (`perform_operators`), so the matcher of the
table is up to date after every run, and books of the same entries compile with one and the same
table.
-/

set_option autoImplicit false

namespace RuleLang.RuleBook

section Builder

variable [MatcherBuilder] {book book' : RuleBook}

/-! ## The table of a book -/

theorem put_operators (book : RuleBook) (name : RuleName) (source : String) :
    (book.put name source).2.operators = (book.compile source).2.operators := by
  rw [put_eq]
  cases book.ruleFor name source <;> rfl

theorem compile_operators (book : RuleBook) (source : String) :
    (book.compile source).2.operators = book.operators ∨
      OperatorTable.Step book.operators (book.compile source).2.operators := by
  rcases book.compile_after source with h | ⟨hprepare, h⟩
  · exact .inl (by rw [h])
  · rw [h]
    exact .inr (.prepare hprepare)

theorem withOperators_operators {operators : Except RuleError OperatorTable}
    (h : ∀ t, operators = .ok t → OperatorTable.Step book.operators t) :
    (book.withOperators operators).2.operators = book.operators ∨
      OperatorTable.Step book.operators (book.withOperators operators).2.operators := by
  cases operators with
  | ok t => exact .inr (h t rfl)
  | error e => exact .inl rfl

/-- **An operation of a book is at most one step of its table.** -/
theorem perform_operators (book : RuleBook) (op : Operation) :
    (book.perform op).2.operators = book.operators ∨
      OperatorTable.Step book.operators (book.perform op).2.operators := by
  cases op with
  | add name source =>
    show (book.add name source).2.operators = _ ∨
      OperatorTable.Step _ (book.add name source).2.operators
    cases hname : book.contains name with
    | true =>
      rw [add_of_taken hname]
      exact .inl rfl
    | false =>
      rw [add_of_free hname, put_operators]
      exact book.compile_operators source
  | put name source =>
    show (book.put name source).2.operators = _ ∨
      OperatorTable.Step _ (book.put name source).2.operators
    rw [put_operators]
    exact book.compile_operators source
  | compile source => exact book.compile_operators source
  | erase name => exact .inl rfl
  | addOperator symbol op =>
    exact withOperators_operators fun _ hinsert => .insert symbol op hinsert
  | eraseOperator symbol => exact .inr (.erase book.operators symbol)
  | clearOperators => exact .inr (.clear book.operators)
  | renameOperator symbol newSymbol keep =>
    exact withOperators_operators fun _ hrename => .rename symbol newSymbol keep hrename

theorem reachable_run (ops : List Operation) (h : book.operators.Reachable) :
    (book.run ops).operators.Reachable := by
  refine run_invariant (P := fun book => book.operators.Reachable) (fun book op hbook => ?_) ops h
  rcases book.perform_operators op with hsame | hstep
  · rwa [hsame]
  · exact .step hbook hstep

/-! ## Compiling -/

/-- Books of the same entries and limits compile every text alike. -/
theorem compile_eq_of_entries (h : book.operators.UpToDate) (h' : book'.operators.UpToDate)
    (hentries : book.operators.entries = book'.operators.entries)
    (hlimits : book.limits = book'.limits) (source : String) :
    (book.compile source).1 = (book'.compile source).1 := by
  rcases Nat.lt_or_ge book.limits.maxRuleBytes source.utf8ByteSize with hlt | hle
  · rw [compile_of_lt hlt, compile_of_lt (hlimits ▸ hlt), hlimits]
  · rw [compile_of_le hle, compile_of_le (hlimits ▸ hle), hlimits,
      OperatorTable.prepare_eq_of_entries h h' hentries]

/-- **What was asked before does not matter.** A table, after any run of its operations, cuts every
rule as a new one does that its entries were added to, in any order, and is refused a matcher only
if that one is; and two books, after any runs, compile every text to the same rule, or fail with the
same error, if their tables have the same entries and their limits are the same. -/
theorem history_does_not_matter :
    (∀ (start : OperatorTable) (ops : List OperatorTable.Operation) (order : List TableEntry),
      start = .empty ∨ start = .builtin → order.Perm (start.run ops).entries.values →
        ∃ fresh, OperatorTable.ofEntries order = .ok fresh ∧
          fresh.entries = (start.run ops).entries ∧ fresh.matcher = none ∧
          (start.run ops).refusal? = fresh.refusal? ∧
          ∀ rule, (start.run ops).segment rule = fresh.segment rule) ∧
    ∀ (operators operators' : OperatorTable) (limits limits' : Limits) (ops ops' : List Operation),
      operators.Reachable → operators'.Reachable →
      (run { operators, limits } ops).operators.entries =
        (run { operators := operators', limits := limits' } ops').operators.entries →
      limits = limits' → ∀ source,
        ((run { operators, limits } ops).compile source).1 =
          ((run { operators := operators', limits := limits' } ops').compile source).1 := by
  constructor
  · intro start ops order hstart horder
    have hreachable : start.Reachable := by
      rcases hstart with rfl | rfl
      · exact .empty
      · exact .builtin
    exact OperatorTable.segment_ofEntries (OperatorTable.reachable_run ops hreachable) horder
  · rintro operators operators' limits _ ops ops' h h' hentries rfl source
    have hrun := OperatorTable.upToDate_of_reachable (@reachable_run _ { operators, limits } ops h)
    have hrun' := OperatorTable.upToDate_of_reachable
      (@reachable_run _ { operators := operators', limits } ops' h')
    refine compile_eq_of_entries hrun hrun' hentries ?_ source
    rw [run_limits, run_limits]

end Builder

/-- A renamed symbol is recognised though a matcher without it was at hand, and it does not matter
whether the symbol was renamed or the operator added under the new one. -/
theorem history_does_not_matter_after_renaming :
    let changes : List OperatorTable.Operation :=
      [.segment "[a] = [b]", .rename "=" " EQ " false, .matcher, .rename "=" " is " true,
        .insert "" ⟨0, Operator.add⟩]
    (∃ fresh,
      OperatorTable.ofEntries (OperatorTable.builtin.run changes).entries.values.reverse =
        .ok fresh ∧
      fresh.segment "[a] eq [b]" = [.field "a", .operator " eq ", .field "b"]) ∧
    ∀ source,
      ((RuleBook.run {} [.compile "[a] = [b]", .renameOperator "=" " EQ " false]).compile
          source).1 =
        ((RuleBook.run {} [.eraseOperator "=", .addOperator " EQ " ⟨1, Operator.equal⟩]).compile
          source).1 := by
  intro changes
  obtain ⟨htable, hbook⟩ := history_does_not_matter
  constructor
  · obtain ⟨fresh, hfresh, _, _, _, hsegment⟩ :=
      htable .builtin changes _ (.inr rfl) (List.reverse_perm _)
    refine ⟨fresh, hfresh, ?_⟩
    rw [← hsegment]
    decide +kernel
  · intro source
    exact hbook .builtin .builtin {} {} [.compile "[a] = [b]", .renameOperator "=" " EQ " false]
      [.eraseOperator "=", .addOperator " EQ " ⟨1, Operator.equal⟩] .builtin .builtin rfl rfl source

end RuleLang.RuleBook
