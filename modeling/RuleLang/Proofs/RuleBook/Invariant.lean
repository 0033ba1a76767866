import RuleLang.Proofs.Rule.Soundness
import RuleLang.Proofs.RuleBook.Compile
import RuleLang.Proofs.RuleBook.Run

/-!
# What holds of every rule book

A rule book is made without rules, from any operators and limits, and changed by its operations
only. Main statement: **in all that a run can lead to the book is within its limits and its rules
are sound** (`run_keeps_sound`). Operators may be removed or renamed after a rule was compiled; the
rule is bound to its own, so it stays sound.
-/

set_option autoImplicit false

namespace RuleLang.RuleBook

/-- A book within its limits, all of whose rules are sound. -/
structure Sound (book : RuleBook) : Prop where
  size_le : book.rules.size ≤ book.limits.maxRules
  rule : ∀ {name rule}, book.rules.get? name = some rule → rule.Sound book.limits

section Builder

variable [MatcherBuilder] {book : RuleBook}

omit [MatcherBuilder] in
theorem sound_of_no_rules (h : book.rules = .empty) : book.Sound where
  size_le := by
    rw [h]
    exact Nat.zero_le _
  rule := by
    intro name rule hrule
    rw [h] at hrule
    exact absurd hrule (by simp)

theorem sound_of_compile {source : String} {rule : Rule}
    (h : (book.compile source).1 = .ok rule) : rule.Sound book.limits := by
  obtain ⟨hsize, haccepted, -⟩ := compile_eq_ok_iff.mp h
  rw [compile_of_accepted hsize haccepted] at h
  exact Rule.sound_of_ofText h hsize

omit [MatcherBuilder] in
/-- A name that is taken gives its place to the new rule; for any other there has to be room. -/
theorem size_insert_le {name : RuleName} {rule : Rule} (h : book.Sound)
    (hroom : book.contains name ∨ book.rules.size < book.limits.maxRules) :
    (book.rules.insert name rule).size ≤ book.limits.maxRules := by
  rw [SortedMap.size_insert]
  rcases hroom with htaken | hlt
  · obtain ⟨old, hold⟩ := Option.isSome_iff_exists.mp htaken
    rw [← SortedMap.size_of_get? hold]
    exact h.size_le
  · exact Nat.le_trans (Nat.succ_le_succ (book.rules.size_erase_le name)) hlt

/-- **Every operation keeps a book sound**, whether it succeeds or fails. -/
theorem perform_sound (book : RuleBook) (op : Operation) (h : book.Sound) :
    (book.perform op).2.Sound := by
  have heffect := book.perform_effect op
  have hlimits := book.perform_limits op
  generalize (book.perform op).1 = answer at heffect
  generalize hrules : (book.perform op).2.rules = rules at heffect
  suffices rules.size ≤ book.limits.maxRules ∧
      ∀ name rule, rules.get? name = some rule → rule.Sound book.limits by
    constructor
    · rw [hlimits, hrules]
      exact this.1
    · intro name rule hrule
      rw [hrules] at hrule
      rw [hlimits]
      exact this.2 name rule hrule
  cases heffect with
  | @kept _ name source new _ hnew =>
    obtain ⟨hcompile, hroom⟩ := ruleFor_eq_ok_iff.mp hnew
    refine ⟨size_insert_le h hroom, fun name' rule hrule => ?_⟩
    rw [SortedMap.get?_insert] at hrule
    split at hrule
    · obtain rfl : new = rule := Option.some.inj hrule
      exact sound_of_compile hcompile
    · exact h.rule hrule
  | refused e _ => exact ⟨h.size_le, fun _ _ => h.rule⟩
  | erased name =>
    refine ⟨Nat.le_trans (book.rules.size_erase_le name) h.size_le, fun name' rule hrule => ?_⟩
    rw [SortedMap.get?_erase] at hrule
    split at hrule
    · exact absurd hrule (by simp)
    · exact h.rule hrule
  | other _ _ => exact ⟨h.size_le, fun _ _ => h.rule⟩

theorem run_limits (ops : List Operation) (book : RuleBook) :
    (book.run ops).limits = book.limits := by
  refine run_invariant (P := fun after => after.limits = book.limits) ?_ ops rfl
  intro after op h
  rw [perform_limits, h]

/-- **What holds of every rule book.** Whatever was asked of it since it was made, and whatever of
that failed: there are no more rules than the limits allow, none is too long, none has a
parenthesis in its sequence, and every operator of a rule is bound in the rule itself. So a rule
has a value on every record, unless one of its own operators fails on its operands. -/
theorem run_keeps_sound (operators : OperatorTable) (limits : Limits) (ops : List Operation) :
    (RuleBook.run { operators, limits } ops).rules.size ≤ limits.maxRules ∧
    ∀ name rule, (RuleBook.run { operators, limits } ops).rules.get? name = some rule →
      rule.source.utf8ByteSize ≤ limits.maxRuleBytes ∧
      (∀ part ∈ rule.sequence, part.paren? = none) ∧
      (∀ symbol, Part.operator symbol ∈ rule.sequence →
        ∃ op, rule.bound.get? (OperatorTable.key symbol) = some op) ∧
      ∀ record,
        (∃ value, rule.evaluate record = .ok value) ∨
        ∃ symbol op left right cause, Part.operator symbol ∈ rule.sequence ∧
          rule.bound.get? (OperatorTable.key symbol) = some op ∧
          op.apply left right = .error cause ∧
          rule.evaluate record = .error (.operator cause) := by
  have hstart : RuleBook.Sound { operators, limits } := sound_of_no_rules rfl
  have hsound := run_invariant perform_sound ops hstart
  have hlimits := run_limits ops { operators, limits }
  constructor
  · have hsize := hsound.size_le
    rw [hlimits] at hsize
    exact hsize
  · intro name rule hrule
    have hr := hsound.rule hrule
    rw [hlimits] at hr
    exact ⟨hr.size_le, hr.noParen, hr.allBound, hr.evaluate_cases⟩

end Builder

/-- A rule whose operator is gone from the table is still bound to it, and fails on no record for
want of it. -/
theorem run_keeps_sound_without_operator :
    ∃ rule, (RuleBook.run {} [.put (.name "total") "([a]) + [b]", .eraseOperator "+"]).rules.get?
        (.name "total") = some rule ∧
      (∃ op, rule.bound.get? (OperatorTable.key "+") = some op) ∧
      ∀ record, (∃ value, rule.evaluate record = .ok value) ∨
        ∃ cause, rule.evaluate record = .error (.operator cause) := by
  let ops : List Operation := [.put (.name "total") "([a]) + [b]", .eraseOperator "+"]
  have hsome : ((RuleBook.run {} ops).rules.get? (.name "total")).isSome = true := by
    decide +kernel
  obtain ⟨rule, hrule⟩ := Option.isSome_iff_exists.mp hsome
  have hplus : ((RuleBook.run {} ops).rules.get? (.name "total")).any
      (fun rule => Part.operator "+" ∈ rule.sequence) = true := by
    decide +kernel
  obtain ⟨_, _, hbound, hcases⟩ := (run_keeps_sound .builtin {} ops).2 _ rule hrule
  refine ⟨rule, hrule, hbound "+" ?_, fun record => ?_⟩
  · rw [hrule] at hplus
    exact of_decide_eq_true hplus
  · rcases hcases record with hvalue | ⟨_, _, _, _, cause, _, _, _, hfails⟩
    · exact .inl hvalue
    · exact .inr ⟨cause, hfails⟩

end RuleLang.RuleBook
