import Mathlib.Data.List.Basic
import RuleLang.Proofs.Fields
import RuleLang.Proofs.PrefixForm.Rearrangement
import RuleLang.Proofs.RuleBook.Isolation
import RuleLang.Proofs.Segment.Spaced

/-!
# Fields are listed as they are written

A rule lists its fields in the order of its prefix form, where operators stand before their
operands. That does not show: main statement, **conversion moves operators only, so the fields of a
rule are listed in the order in which its text first names them, each once**
(`operands_keep_their_order`), by the rule and by the book that keeps it, for as long as it does.
-/

set_option autoImplicit false

namespace RuleLang

/-- The members of a list, each once, in the order in which they occur in it first. -/
structure FirstOccurrences (names distinct : List String) : Prop where
  mem_iff : ∀ name, name ∈ distinct ↔ name ∈ names
  ordered : distinct.Pairwise fun a b => names.idxOf a < names.idxOf b

namespace Part

theorem pairwise_foldl_seen (names : List String) :
    (names.foldl (fun seen name => if name ∈ seen then seen else seen ++ [name]) []).Pairwise
      fun a b => names.idxOf a < names.idxOf b := by
  induction names using List.reverseRecOn with
  | nil => exact .nil
  | append_singleton names name ih =>
    rw [List.foldl_append]
    generalize hseen : names.foldl
      (fun seen name => if name ∈ seen then seen else seen ++ [name]) [] = seen at ih
    have hmem (other : String) : other ∈ seen ↔ other ∈ names := by
      rw [← hseen, mem_foldl_seen]
      simp
    -- A name that was seen keeps its place.
    have hold : seen.Pairwise fun a b => (names ++ [name]).idxOf a < (names ++ [name]).idxOf b := by
      refine ih.imp_of_mem fun {a b} ha hb hlt => ?_
      rwa [List.idxOf_append_of_mem ((hmem a).mp ha), List.idxOf_append_of_mem ((hmem b).mp hb)]
    simp only [List.foldl_cons, List.foldl_nil]
    split
    · exact hold
    · next hnew =>
      refine List.pairwise_append.mpr ⟨hold, List.pairwise_singleton _ _, ?_⟩
      intro a ha b hb
      obtain rfl : b = name := List.mem_singleton.mp hb
      have hlast : names.length ≤ (names ++ [b]).idxOf b := by
        rw [List.idxOf_append_of_notMem fun h => hnew ((hmem b).mpr h)]
        exact Nat.le_add_right _ _
      rw [List.idxOf_append_of_mem ((hmem a).mp ha)]
      exact Nat.lt_of_lt_of_le (List.idxOf_lt_length_of_mem ((hmem a).mp ha)) hlast

/-- **The fields of parts are listed in the order in which they are first named.** -/
theorem firstOccurrences_fieldsOf (parts : List Part) :
    FirstOccurrences (parts.filterMap field?) (fieldsOf parts) where
  mem_iff name := by
    rw [fieldsOf, mem_foldl_seen]
    simp
  ordered := pairwise_foldl_seen _

end Part

namespace RuleBook

section Builder

variable [MatcherBuilder] {book : RuleBook} {source : String}

theorem firstOccurrences_of_compile {rule : Rule} (h : (book.compile source).1 = .ok rule) :
    FirstOccurrences ((book.operators.segment source).filterMap Part.field?) rule.fields := by
  obtain ⟨_, _, sequence, hform, _, rfl⟩ := compile_eq_ok_iff.mp h
  rw [Rule.fields, PrefixForm.fieldsOf_of_ofParts hform]
  exact Part.firstOccurrences_fieldsOf _

/-- **Operands keep their order.** A prefix form has no parentheses, the operands that it was made
from in the order they had, and the operators, moved. So the fields of a rule are those that its
text names, in the order in which it first names them, each once; and that is what a book lists
under a name from the moment it keeps the rule until the name is touched again. -/
theorem operands_keep_their_order :
    (∀ table limits source parts output,
      PrefixForm.ofParts table limits source parts = .ok output →
        (∀ part ∈ output, part.paren? = none) ∧
        output.filter (!Part.isOperator ·) = operandsOf parts ∧
        (output.filter Part.isOperator).Perm (operatorsOf parts)) ∧
    (∀ (book : RuleBook) source rule, (book.compile source).1 = .ok rule →
      Segment.Spaced (book.operators.segment source) source.toList ∧
      FirstOccurrences ((book.operators.segment source).filterMap Part.field?) rule.fields) ∧
    (∀ (book : RuleBook) op name source after, book.Sets op name source →
      Untouched name (book.perform op).2 after →
        ∃ fields, ((book.perform op).2.run after).fields name = .ok fields ∧
          FirstOccurrences ((book.operators.segment source).filterMap Part.field?) fields) := by
  refine ⟨?_, ?_, ?_⟩
  · intro table limits source parts output h
    exact ⟨fun part hpart => (PrefixForm.mem_of_ofParts h hpart).2,
      PrefixForm.operands_of_ofParts h, PrefixForm.operators_of_ofParts h⟩
  · intro book source rule h
    exact ⟨Segment.spaced_ruleParts source.toList, firstOccurrences_of_compile h⟩
  · intro book op name source after hsets hafter
    obtain ⟨rule, hcompile, hget⟩ := get?_of_sets hsets
    have hkept : ((book.perform op).2.run after).rules.get? name = some rule := by
      rw [get?_of_untouched hafter, hget]
    refine ⟨rule.fields, ?_, firstOccurrences_of_compile hcompile⟩
    simp [fields, RuleBook.rule, hkept, Except.map]

end Builder

/-- The operators of a prefix form stand in another order than those of the text, the fields in the
same. -/
example : ((({} : RuleBook).compile "[b] * [c] + ([a] - [b])").1.map fun rule =>
      (rule.display, rule.fields)) =
    .ok ("+ * [b] [c] - [a] [b]", ["b", "c", "a"]) := by
  decide +kernel

end RuleBook

end RuleLang
