import RuleLang.RuleBook
import RuleLang.Proofs.Evaluation
import RuleLang.Proofs.Operator.Bindings
import RuleLang.Proofs.Operator.Reachable
import RuleLang.Proofs.Operator.Signature
import RuleLang.Proofs.PrefixForm.Reading
import RuleLang.Proofs.Segment.Operators

/-!
# Which texts are accepted as rules

A text is accepted after a dry run on values that mean nothing. What that run finds out is a matter
of shape alone: **a text is a rule exactly if its prefix form begins with an application**
(`compile_by_shape`), whatever the operators of the table compute and wherever they fail.

Both runs see the same shape. One that never completes an expression fails with any operators
(`evaluate_pending`), so the inert ones fail as well and nothing is hidden. One that completes an
application can fail only because of an operator, since all operators of a rule are bound
(`allBound_of_ofParts`), and inert ones never do.
-/

set_option autoImplicit false

namespace RuleLang

/-- Whether a sequence begins with an operator and two complete operands. -/
def BeginsWithApplication (sequence : List Part) : Prop :=
  ∃ symbol left right, (Tree.apply symbol left right).parts <+: sequence

/-- Whether every operator among parts is bound. -/
def AllBound (bound : OperatorSet) (parts : List Part) : Prop :=
  ∀ symbol, Part.operator symbol ∈ parts → ∃ op, bound.get? (OperatorTable.key symbol) = some op

variable {bound : OperatorSet} {record : Record}

/-- Operators that never fail give every tree a value. -/
theorem Tree.exists_value
    (hnever : ∀ k op, bound.get? k = some op → ∀ l r, ∃ value, op.apply l r = .ok value)
    (t : Tree) : AllBound bound t.parts → ∃ value, t.value bound record = .ok value := by
  induction t with
  | operand part plain => exact fun _ => ⟨_, rfl⟩
  | apply symbol left right ihl ihr =>
    intro hbound
    obtain ⟨l, hl⟩ := ihl fun s hs => hbound s (by simp [parts, hs])
    obtain ⟨r, hr⟩ := ihr fun s hs => hbound s (by simp [parts, hs])
    obtain ⟨op, hop⟩ := hbound symbol (by simp [parts])
    obtain ⟨value, happly⟩ := hnever _ op hop l r
    refine ⟨value, ?_⟩
    simp only [Tree.value, hl, hr, hop, happly, bind, Except.bind]
    rfl

namespace Rule

/-! ## The dry run -/

theorem isExpression_of_error {rule : Rule}
    (h : ∀ bound record, ∃ e, RuleLang.evaluate bound record rule.sequence = .error e) :
    rule.isExpression = false := by
  obtain ⟨e, he⟩ := h rule.bound rule.sampleRecord
  obtain ⟨e', he'⟩ := h rule.inert.bound rule.sampleRecord
  have hreal : rule.evaluate rule.sampleRecord = .error e := he
  have hinert : rule.inert.evaluate rule.sampleRecord = .error e' := he'
  rw [isExpression, hreal]
  cases e with
  | operator cause => simp only [hinert]
  | missingOperand | missingOperator | unknownOperator _ | incomplete => rfl

theorem allBound_inert {rule : Rule} {parts : List Part} (h : AllBound rule.bound parts) :
    AllBound rule.inert.bound parts := by
  intro symbol hmem
  obtain ⟨op, hop⟩ := h symbol hmem
  exact ⟨_, by rw [inert, SortedMap.get?_map, hop]; rfl⟩

theorem inert_never_fails {rule : Rule} {k : String} {op : Operator}
    (h : rule.inert.bound.get? k = some op) (l r : Value) : ∃ value, op.apply l r = .ok value := by
  rw [inert, SortedMap.get?_map] at h
  obtain ⟨_, _, rfl⟩ := Option.map_eq_some_iff.mp h
  exact ⟨.null, rfl⟩

/-- An application at the beginning is accepted: with bound operators it fails only because of
what one of them computes, and the inert operators compute nothing. -/
theorem isExpression_of_apply {rule : Rule} {symbol : String} {left right : Tree}
    {rest : List Part} (hseq : rule.sequence = (Tree.apply symbol left right).parts ++ rest)
    (hbound : AllBound rule.bound rule.sequence) : rule.isExpression = true := by
  have htree : AllBound rule.bound (Tree.apply symbol left right).parts := by
    intro s hs
    exact hbound s (hseq ▸ List.mem_append_left _ hs)
  have hreal : rule.evaluate rule.sampleRecord =
      (Tree.apply symbol left right).value rule.bound rule.sampleRecord := by
    rw [Rule.evaluate, hseq, evaluate_apply]
  rw [isExpression, hreal]
  cases hvalue : (Tree.apply symbol left right).value rule.bound rule.sampleRecord with
  | ok value => rfl
  | error e =>
    rcases Tree.value_error hvalue with ⟨s, hs, hnone, _⟩ | ⟨cause, rfl⟩
    · obtain ⟨op, hop⟩ := htree s hs
      rw [hnone] at hop
      exact absurd hop (by simp)
    · obtain ⟨value, hinert⟩ := Tree.exists_value (fun _ _ => inert_never_fails) _
        (allBound_inert htree)
      have hrun : rule.inert.evaluate rule.sampleRecord = .ok value := by
        rw [Rule.evaluate, show rule.inert.sequence = rule.sequence from rfl, hseq,
          evaluate_apply, hinert]
      simp only [hrun]

/-- **The dry run tells the shape.** -/
theorem isExpression_iff {rule : Rule} (hbound : AllBound rule.bound rule.sequence) :
    rule.isExpression = true ↔ BeginsWithApplication rule.sequence := by
  rcases Tree.starts_or_pending rule.sequence with ⟨t, rest, hseq⟩ | ⟨pending, hseq⟩
  · cases t with
    | operand part plain =>
      have hfalse : rule.isExpression = false := by
        refine isExpression_of_error fun bound record => ⟨.missingOperand, ?_⟩
        rw [hseq]
        exact evaluate_operand bound record plain rest
      rw [hfalse]
      refine ⟨fun h => absurd h (by simp), ?_⟩
      rintro ⟨symbol, left, right, more, hmore⟩
      exact Tree.noConfusion (Tree.parts_append_cancel (hmore.trans hseq)).1
    | apply symbol left right =>
      refine ⟨fun _ => ⟨symbol, left, right, rest, hseq.symm⟩, ?_⟩
      exact fun _ => isExpression_of_apply hseq hbound
  · have hfalse : rule.isExpression = false := by
      refine isExpression_of_error fun bound record => ?_
      rw [hseq]
      exact ⟨_, evaluate_pending bound record pending⟩
    rw [hfalse]
    refine ⟨fun h => absurd h (by simp), ?_⟩
    rintro ⟨symbol, left, right, more, hmore⟩
    exact absurd (hmore.trans hseq) (Tree.parts_append_ne_pending pending _ more)

/-! ## Compiling a text -/

/-- What a rule refers to is bound: it came out of the table's own segmentation, and the
parentheses of it are gone. -/
theorem allBound_of_ofParts {table : OperatorTable} {limits : Limits} {source rule : String}
    {sequence : List Part}
    (h : PrefixForm.ofParts table limits source (table.segment rule) = .ok sequence) :
    AllBound (table.bindings sequence) sequence := by
  intro symbol hmem
  obtain ⟨hsegment, hnoParen⟩ := PrefixForm.mem_of_ofParts h hmem
  rw [OperatorTable.get?_bindings_of_mem hmem]
  rcases OperatorTable.known_of_mem_segment hsegment with hparen | hcontains
  · exact absurd hnoParen hparen
  · rw [OperatorTable.contains_eq_isSome] at hcontains
    exact Option.isSome_iff_exists.mp hcontains

theorem ofText_eq_ok_iff {table : OperatorTable} {limits : Limits} {source : String} {rule : Rule} :
    ofText table limits source = .ok rule ↔
      ∃ sequence, PrefixForm.ofParts table limits source (table.segment source) = .ok sequence ∧
        BeginsWithApplication sequence ∧ rule = ⟨source, sequence, table.bindings sequence⟩ := by
  unfold ofText
  cases hparts : PrefixForm.ofParts table limits source (table.segment source) with
  | error e => simp [bind, Except.bind]
  | ok sequence =>
    have hiff := @isExpression_iff ⟨source, sequence, table.bindings sequence⟩
      (allBound_of_ofParts hparts)
    simp only [bind, Except.bind, Except.ok.injEq, exists_eq_left']
    rw [← hiff]
    split
    · next htrue => simp [htrue, eq_comm]
    · next hfalse => simp [hfalse]

theorem ofText_eq_error_iff {table : OperatorTable} {limits : Limits} {source : String}
    {e : RuleError} :
    ofText table limits source = .error e ↔
      PrefixForm.ofParts table limits source (table.segment source) = .error e ∨
      ∃ sequence, PrefixForm.ofParts table limits source (table.segment source) = .ok sequence ∧
        ¬ BeginsWithApplication sequence ∧ e = .invalidExpression (.rule source) := by
  unfold ofText
  cases hparts : PrefixForm.ofParts table limits source (table.segment source) with
  | error e' => simp [bind, Except.bind]
  | ok sequence =>
    have hiff := @isExpression_iff ⟨source, sequence, table.bindings sequence⟩
      (allBound_of_ofParts hparts)
    simp only [bind, Except.bind, Except.ok.injEq, exists_eq_left', reduceCtorEq, false_or]
    rw [← hiff]
    split
    · next htrue => simp [htrue]
    · next hfalse => simp [hfalse, eq_comm]

end Rule

end RuleLang
