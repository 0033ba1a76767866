import RuleLang.Proofs.Rule.Acceptance

/-!
# What a compiled rule can be relied on for

A rule that a text compiled to is kept and evaluated on records that nobody has seen when it was
compiled. It was tried out on one record only; what that run found out is a matter of shape, so it
holds for all of them: **a sound rule has a value on every record, unless one of its operators
fails on its operands** (`Sound.evaluate_cases`). No operand and no operator is ever missing, and
every symbol is bound.
-/

set_option autoImplicit false

namespace RuleLang

variable {bound : OperatorSet} {record : Record}

/-- A tree that fails because of an operator has that operator, bound, and applied to operands that
it fails on. -/
theorem Tree.exists_failing_operator {t : Tree} {cause : OperatorError} :
    t.value bound record = .error (.operator cause) →
      ∃ symbol op left right, Part.operator symbol ∈ t.parts ∧
        bound.get? (OperatorTable.key symbol) = some op ∧ op.apply left right = .error cause := by
  induction t with
  | operand part plain =>
    intro h
    exact absurd h (by simp [value])
  | apply symbol left right ihl ihr =>
    intro h
    rw [value] at h
    cases hl : left.value bound record with
    | error el =>
      rw [hl] at h
      obtain rfl : el = .operator cause := Except.error.inj h
      obtain ⟨s, op, l, r, hs, hop⟩ := ihl hl
      exact ⟨s, op, l, r, by simp [parts, hs], hop⟩
    | ok l =>
      cases hr : right.value bound record with
      | error er =>
        rw [hl, hr] at h
        obtain rfl : er = .operator cause := Except.error.inj h
        obtain ⟨s, op, l', r, hs, hop⟩ := ihr hr
        exact ⟨s, op, l', r, by simp [parts, hs], hop⟩
      | ok r =>
        simp only [hl, hr, bind, Except.bind] at h
        split at h
        · exact absurd h (by simp)
        · next op hop =>
          refine ⟨symbol, op, l, r, by simp [parts], hop, ?_⟩
          cases happly : op.apply l r with
          | ok v =>
            rw [happly] at h
            exact absurd (show (Except.ok v : Except EvalError Value) = _ from h) (by simp)
          | error e =>
            rw [happly] at h
            obtain rfl : e = cause := EvalError.operator.inj (Except.error.inj h)
            rfl

namespace Rule

/-- What holds of every rule that was compiled within some limits. -/
structure Sound (limits : Limits) (rule : Rule) : Prop where
  size_le : rule.source.utf8ByteSize ≤ limits.maxRuleBytes
  noParen : ∀ part ∈ rule.sequence, part.paren? = none
  allBound : AllBound rule.bound rule.sequence
  begins : BeginsWithApplication rule.sequence

theorem sound_of_ofText {table : OperatorTable} {limits : Limits} {source : String} {rule : Rule}
    (h : ofText table limits source = .ok rule)
    (hsize : source.utf8ByteSize ≤ limits.maxRuleBytes) : rule.Sound limits := by
  obtain ⟨sequence, hparts, hbegins, rfl⟩ := ofText_eq_ok_iff.mp h
  exact {
    size_le := hsize
    noParen := fun _ hpart => (PrefixForm.mem_of_ofParts hparts hpart).2
    allBound := allBound_of_ofParts hparts
    begins := hbegins }

/-- **One dry run vouches for all records**: a rule has a value, or one of its operators fails. -/
theorem Sound.evaluate_cases {limits : Limits} {rule : Rule} (h : rule.Sound limits)
    (record : Record) :
    (∃ value, rule.evaluate record = .ok value) ∨
    ∃ symbol op left right cause, Part.operator symbol ∈ rule.sequence ∧
      rule.bound.get? (OperatorTable.key symbol) = some op ∧
      op.apply left right = .error cause ∧ rule.evaluate record = .error (.operator cause) := by
  obtain ⟨symbol, left, right, rest, hsequence⟩ := h.begins
  have hmem : ∀ part ∈ (Tree.apply symbol left right).parts, part ∈ rule.sequence := by
    intro part hpart
    rw [← hsequence]
    exact List.mem_append_left _ hpart
  have hvalue : rule.evaluate record = (Tree.apply symbol left right).value rule.bound record := by
    rw [Rule.evaluate, ← hsequence, evaluate_apply]
  rw [hvalue]
  cases htree : (Tree.apply symbol left right).value rule.bound record with
  | ok value => exact .inl ⟨value, rfl⟩
  | error e =>
    rcases Tree.value_error htree with ⟨s, hs, hnone, _⟩ | ⟨cause, rfl⟩
    · obtain ⟨op, hop⟩ := h.allBound s (hmem _ hs)
      exact absurd (hnone.symm.trans hop) (by simp)
    · obtain ⟨s, op, l, r, hs, hop, happly⟩ := Tree.exists_failing_operator htree
      exact .inr ⟨s, op, l, r, cause, hmem _ hs, hop, happly, rfl⟩

end Rule

end RuleLang
