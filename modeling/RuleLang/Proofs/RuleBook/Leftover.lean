import RuleLang.Proofs.PrefixForm.Separated
import RuleLang.Proofs.RuleBook.Compile

/-!
# Parts that a rule does not use

A text is accepted for what its prefix form begins with, and evaluation ends where the application
at the beginning does. What stands behind it is part of the rule and of no value of it. Main
statement: **nothing is left over exactly if no proper beginning of the prefix form has more
operands than operators**, and nothing is if every two neighbouring operands of the text have an
operator between them (`compile_leftover`). Two fields side by side are enough for a leftover
(`compile_adjacent_fields`).
-/

set_option autoImplicit false

namespace RuleLang.RuleBook

/-- **What an accepted rule leaves over.** Its sequence is an application and the rest; the value is
that of the application on every record; the sequence is one expression exactly if there is no
rest, and counting operands and operators tells. -/
theorem compile_leftover [MatcherBuilder] (book : RuleBook) (source : String) (rule : Rule)
    (h : (book.compile source).1 = .ok rule) :
    ∃ symbol left right rest,
      rule.sequence = (Tree.apply symbol left right).parts ++ rest ∧
      (∀ record, rule.evaluate record = (Tree.apply symbol left right).value rule.bound record) ∧
      ((∃ t : Tree, rule.sequence = t.parts) ↔ rest = []) ∧
      ((∀ front back, rule.sequence = front ++ back → back ≠ [] →
        operandCount front ≤ operatorCount front) ↔ rest = []) ∧
      (rest = [] → operandCount rule.sequence = operatorCount rule.sequence + 1) ∧
      (Separated (book.operators.segment source) → rest = []) := by
  obtain ⟨_, _, sequence, hform, ⟨symbol, left, right, rest, hsequence⟩, rfl⟩ :=
    compile_eq_ok_iff.mp h
  subst hsequence
  have hwhole := @Tree.exists_parts_eq_iff (.apply symbol left right) rest
  have hcounts := @Tree.exists_parts_eq_iff_beginnings (.apply symbol left right) rest
  refine ⟨symbol, left, right, rest, rfl, ?_, hwhole, hcounts.symm.trans hwhole, ?_, ?_⟩
  · intro record
    exact evaluate_apply _ record symbol left right rest
  · rintro rfl
    simp only [List.append_nil]
    exact Tree.operandCount_parts _
  · intro hseparated
    exact Tree.rest_eq_nil (PrefixForm.sparse_of_ofParts hform hseparated).beginnings

/-- Of three fields with one operator between them, the third is left over: the rule is accepted,
and its value is the sum of the first two. -/
theorem compile_adjacent_fields :
    ∃ rule, (({} : RuleBook).compile "[a] + [b] [c]").1 = .ok rule ∧
      rule.sequence = [.operator "+", .field "a", .field "b", .field "c"] ∧
      (¬ ∃ t : Tree, rule.sequence = t.parts) ∧
      ∀ record, rule.evaluate record =
        (Tree.apply "+" (.operand (.field "a") rfl) (.operand (.field "b") rfl)).value
          rule.bound record := by
  have hsegment : OperatorTable.builtin.segment "[a] + [b] [c]" =
      [.field "a", .operator "+", .field "b", .field "c"] := by decide +kernel
  have hform : ({} : RuleBook).prefixForm "[a] + [b] [c]" =
      .ok [.operator "+", .field "a", .field "b", .field "c"] := by
    unfold prefixForm
    rw [hsegment]
    rfl
  let sum : Tree := .apply "+" (.operand (.field "a") rfl) (.operand (.field "b") rfl)
  have hbegins : BeginsWithApplication [.operator "+", .field "a", .field "b", .field "c"] :=
    ⟨_, _, _, [.field "c"], show sum.parts ++ _ = _ from rfl⟩
  refine ⟨_, compile_eq_ok_iff.mpr ⟨by decide, refusal?_builtin, _, hform, hbegins, rfl⟩, rfl,
    ?_, ?_⟩
  · intro hwhole
    have hrest := (@Tree.exists_parts_eq_iff sum [.field "c"]).mp hwhole
    exact absurd hrest (by simp)
  · intro record
    exact evaluate_apply _ record "+" (.operand (.field "a") rfl) (.operand (.field "b") rfl)
      [.field "c"]

/-- A rule whose operands are separated is one expression. -/
theorem compile_separated_fields :
    ∃ rule, (({} : RuleBook).compile "[a] + [b]").1 = .ok rule ∧
      ∃ t : Tree, rule.sequence = t.parts := by
  have hsegment : OperatorTable.builtin.segment "[a] + [b]" =
      [.field "a", .operator "+", .field "b"] := by decide +kernel
  have hform : ({} : RuleBook).prefixForm "[a] + [b]" =
      .ok [.operator "+", .field "a", .field "b"] := by
    unfold prefixForm
    rw [hsegment]
    rfl
  let sum : Tree := .apply "+" (.operand (.field "a") rfl) (.operand (.field "b") rfl)
  have hbegins : BeginsWithApplication [.operator "+", .field "a", .field "b"] :=
    ⟨_, _, _, [], show sum.parts ++ [] = _ from rfl⟩
  have hok := (@compile_eq_ok_iff _ {} "[a] + [b]" _).mpr
    ⟨by decide, refusal?_builtin, _, hform, hbegins, rfl⟩
  refine ⟨_, hok, ?_⟩
  obtain ⟨_, _, _, rest, _, _, hwhole, _, _, hnothing⟩ := compile_leftover _ _ _ hok
  refine hwhole.mpr (hnothing ?_)
  rw [show ({} : RuleBook).operators.segment "[a] + [b]" = _ from hsegment]
  decide

end RuleLang.RuleBook
