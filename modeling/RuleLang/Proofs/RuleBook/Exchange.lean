import RuleLang.Proofs.Alike
import RuleLang.Proofs.RuleBook.Compile
import RuleLang.Proofs.Segment.Splitting

/-!
# A field in place of a literal

A literal can be written in a rule in place of a field that holds its text, and a field in place of
a literal. Wherever this is done, **either both rules compile or neither does, and on every record
in which the field holds the text both have one value or one error** (`compile_exchange`).

The parts of the two rules are the same but for the one that is exchanged (`segment_literal`,
`segment_field`), and neither the conversion nor the evaluation can tell the difference: both are
operands, and they stand for one value.
-/

set_option autoImplicit false

namespace RuleLang

/-- A part and itself, or a literal and the field in its place. -/
inductive Exchanged (content name : String) : Part → Part → Prop
  | same (part : Part) : Exchanged content name part part
  | exchanged : Exchanged content name (.text content) (.field name)

namespace Exchanged

variable {content name : String} {table : OperatorTable} {sequence sequence' : List Part}

theorem reads (table : OperatorTable) :
    PrefixForm.Reads table table (Exchanged content name) where
  paren h := by cases h <;> rfl
  operator h := by
    cases h with
    | same => exact ⟨_, rfl, rfl⟩
  operand h plain := by
    cases h with
    | same => exact plain
    | exchanged => rfl

theorem operator_mem_iff (h : List.Forall₂ (Exchanged content name) sequence sequence')
    (symbol : String) : .operator symbol ∈ sequence ↔ .operator symbol ∈ sequence' := by
  induction h with
  | nil => exact Iff.rfl
  | cons hpart _ ih =>
    rw [List.mem_cons, List.mem_cons, ih]
    cases hpart with
    | same => exact Iff.rfl
    | exchanged => simp

/-- The operators of both are the same, and so is what they are bound to. -/
theorem bindings_eq (h : List.Forall₂ (Exchanged content name) sequence sequence') :
    table.bindings sequence = table.bindings sequence' := by
  refine SortedMap.ext_get? fun k => ?_
  ext op
  simp only [OperatorTable.get?_bindings_iff, operator_mem_iff h]

/-- On a record in which the field holds the text, exchanged sequences are evaluated alike. -/
theorem evaluate_eq (h : List.Forall₂ (Exchanged content name) sequence sequence')
    (bound : OperatorSet) {record : Record} (hfield : record.field name = .text content) :
    evaluate bound record sequence = evaluate bound record sequence' := by
  refine (evaluate_related (V := Eq) (h.imp fun part part' hpart => ?_)).eq
  cases hpart with
  | exchanged => exact .operand rfl rfl hfield.symm
  | same =>
    cases part with
    | operator symbol => exact .operator (Evaluate.applies_self bound symbol)
    | text _ | field _ | other _ => exact .operand rfl rfl rfl

end Exchanged

/-- A rule with a part written between the rest of it. -/
def Part.between (before : String) (part : Part) (after : String) : String :=
  before ++ String.ofList part.source ++ after

section Between

variable {before after : String}

theorem OperatorTable.segment_literal (table : OperatorTable) (hbefore : '\'' ∉ before.toList)
    (hafter : after.toList.head? ≠ some '\'') (content : String) :
    table.segment (Part.between before (.text content) after) =
      table.segment before ++ [.text content] ++ table.segment after := by
  unfold segment Part.between
  rw [String.toList_append, String.toList_append, String.toList_ofList, List.append_assoc,
    Segment.ruleParts_literal hbefore content hafter, List.append_assoc, List.singleton_append]

theorem OperatorTable.segment_field (table : OperatorTable) (hbefore : '\'' ∉ before.toList)
    {name : String} (hname : Segment.Unmarked name.toList) (after : String) :
    table.segment (Part.between before (.field name) after) =
      table.segment before ++ [.field name] ++ table.segment after := by
  unfold segment Part.between
  rw [String.toList_append, String.toList_append, String.toList_ofList, List.append_assoc,
    Segment.ruleParts_field hbefore hname, List.append_assoc, List.singleton_append]

namespace RuleBook

/-- The two rules have exchanged prefix forms, or none for the same reason. -/
theorem prefixForm_exchange (book : RuleBook) (hbefore : '\'' ∉ before.toList)
    (hafter : after.toList.head? ≠ some '\'') {content name : String}
    (hname : Segment.Unmarked name.toList) :
    Outcome (PrefixForm.SameFault (Part.between before (.text content) after)
        (Part.between before (.field name) after))
      (List.Forall₂ (Exchanged content name))
      (book.prefixForm (Part.between before (.text content) after))
      (book.prefixForm (Part.between before (.field name) after)) := by
  have hsame (parts : List Part) : List.Forall₂ (Exchanged content name) parts parts :=
    List.forall₂_same.mpr fun part _ => .same part
  have hparts := List.rel_append (List.rel_append (hsame (book.operators.segment before))
    (.cons .exchanged .nil)) (hsame (book.operators.segment after))
  unfold prefixForm
  rw [OperatorTable.segment_literal _ hbefore hafter content,
    OperatorTable.segment_field _ hbefore hname after]
  exact PrefixForm.ofParts_related (Exchanged.reads _) hparts

/-- **A field and a literal of its text are interchangeable.** -/
theorem compile_exchange [MatcherBuilder] (book : RuleBook) (before after content name : String)
    (hbefore : '\'' ∉ before.toList) (hafter : after.toList.head? ≠ some '\'')
    (hname : Segment.Unmarked name.toList) :
    book.operators.segment (Part.between before (.text content) after) =
      book.operators.segment before ++ [.text content] ++ book.operators.segment after ∧
    book.operators.segment (Part.between before (.field name) after) =
      book.operators.segment before ++ [.field name] ++ book.operators.segment after ∧
    ((Part.between before (.text content) after).utf8ByteSize ≤ book.limits.maxRuleBytes →
      (Part.between before (.field name) after).utf8ByteSize ≤ book.limits.maxRuleBytes →
        ((∃ rule, (book.compile (Part.between before (.text content) after)).1 = .ok rule) ↔
          ∃ rule, (book.compile (Part.between before (.field name) after)).1 = .ok rule)) ∧
    ∀ rule rule',
      (book.compile (Part.between before (.text content) after)).1 = .ok rule →
      (book.compile (Part.between before (.field name) after)).1 = .ok rule' →
        ∀ record : Record, record.get? name = some (.text content) →
          rule.evaluate record = rule'.evaluate record := by
  have hforms := @prefixForm_exchange before after book hbefore hafter content name hname
  have hshape {sequence sequence' : List Part} :=
    @beginsWithApplication_iff_of_related _ _ _ (@Exchanged.reads content name book.operators)
      sequence sequence'
  refine ⟨book.operators.segment_literal hbefore hafter content,
    book.operators.segment_field hbefore hname after, ?_, ?_⟩
  · intro hsize hsize'
    constructor
    · rintro ⟨rule, hrule⟩
      obtain ⟨_, haccepted, sequence, hform, hbegins, _⟩ := compile_eq_ok_iff.mp hrule
      rw [hform] at hforms
      obtain ⟨sequence', hform', hrelated⟩ := hforms.exists_right
      exact ⟨_, compile_eq_ok_iff.mpr ⟨hsize', haccepted, sequence', hform',
        (hshape hrelated).mp hbegins, rfl⟩⟩
    · rintro ⟨rule, hrule⟩
      obtain ⟨_, haccepted, sequence', hform', hbegins, _⟩ := compile_eq_ok_iff.mp hrule
      rw [hform'] at hforms
      obtain ⟨sequence, hform, hrelated⟩ := hforms.exists_left
      exact ⟨_, compile_eq_ok_iff.mpr ⟨hsize, haccepted, sequence, hform,
        (hshape hrelated).mpr hbegins, rfl⟩⟩
  · intro rule rule' hrule hrule' record hrecord
    obtain ⟨_, _, sequence, hform, _, rfl⟩ := compile_eq_ok_iff.mp hrule
    obtain ⟨_, _, sequence', hform', _, rfl⟩ := compile_eq_ok_iff.mp hrule'
    rw [hform, hform'] at hforms
    have hfield : record.field name = .text content := by
      rw [Record.field, hrecord]
      rfl
    unfold Rule.evaluate
    rw [← Exchanged.bindings_eq hforms.of_ok]
    exact Exchanged.evaluate_eq hforms.of_ok _ hfield

/-- The field may occur elsewhere in the rule, and the literal may hold anything. -/
theorem compile_exchange_of_marks :
    ∃ rule rule',
      (({} : RuleBook).compile "[a] = 'it''s (' and ([b] = 'x')").1 = .ok rule ∧
      (({} : RuleBook).compile "[a] = [b] and ([b] = 'x')").1 = .ok rule' ∧
      ∀ record : Record, record.get? "b" = some (.text "it's (") →
        rule.evaluate record = rule'.evaluate record := by
  have hliteral : Part.between "[a] = " (.text "it's (") " and ([b] = 'x')" =
      "[a] = 'it''s (' and ([b] = 'x')" := by decide +kernel
  have hfield : Part.between "[a] = " (.field "b") " and ([b] = 'x')" =
      "[a] = [b] and ([b] = 'x')" := by decide +kernel
  obtain ⟨_, _, hiff, hvalue⟩ := compile_exchange {} "[a] = " " and ([b] = 'x')" "it's (" "b"
    (by decide) (by decide) (by decide)
  rw [hliteral, hfield] at hiff hvalue
  have hok : (({} : RuleBook).compile "[a] = 'it''s (' and ([b] = 'x')").1.toBool = true := by
    decide +kernel
  obtain ⟨rule, hrule⟩ : ∃ rule,
      (({} : RuleBook).compile "[a] = 'it''s (' and ([b] = 'x')").1 = .ok rule := by
    cases hcompile : (({} : RuleBook).compile "[a] = 'it''s (' and ([b] = 'x')").1 with
    | ok rule => exact ⟨rule, rfl⟩
    | error e => simp [hcompile, Except.toBool] at hok
  obtain ⟨rule', hrule'⟩ := (hiff (by decide) (by decide)).mp ⟨rule, hrule⟩
  exact ⟨rule, rule', hrule, hrule', hvalue rule rule' hrule hrule'⟩

end RuleBook

end Between

end RuleLang
