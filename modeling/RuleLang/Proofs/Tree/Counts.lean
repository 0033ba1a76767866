import RuleLang.Proofs.Tree

/-!
# Counting operands and operators

A prefix form has one operand more than it has operators, and no beginning of it has: that is how
its end can be found by counting. Sequences with the second half of this property are `Sparse`.
They are what is left of a prefix form when operands are missing from it; a prefix form with
further parts behind it is not one of them.

Main statement: **of a sequence that begins with a prefix form, counting tells whether anything
stands behind it** (`Tree.exists_parts_eq_iff_beginnings`).
-/

set_option autoImplicit false

namespace RuleLang

def operatorCount (parts : List Part) : Nat := parts.countP Part.isOperator

def operandCount (parts : List Part) : Nat := parts.countP fun part => !part.isOperator

@[simp] theorem operatorCount_append (ps qs : List Part) :
    operatorCount (ps ++ qs) = operatorCount ps + operatorCount qs := List.countP_append

@[simp] theorem operandCount_append (ps qs : List Part) :
    operandCount (ps ++ qs) = operandCount ps + operandCount qs := List.countP_append

@[simp] theorem operatorCount_operator (symbol : String) (ps : List Part) :
    operatorCount (.operator symbol :: ps) = operatorCount ps + 1 :=
  List.countP_cons_of_pos rfl

@[simp] theorem operandCount_operator (symbol : String) (ps : List Part) :
    operandCount (.operator symbol :: ps) = operandCount ps :=
  List.countP_cons_of_neg (by simp [Part.isOperator])

theorem Tree.operandCount_parts (t : Tree) :
    operandCount t.parts = operatorCount t.parts + 1 := by
  induction t with
  | operand part plain => simp [parts, operandCount, operatorCount, plain]
  | apply symbol left right ihl ihr =>
    rw [parts, operandCount_operator, operatorCount_operator, operandCount_append,
      operatorCount_append, ihl, ihr]
    omega

/-- No beginning of a sequence, but at most the whole, has more operands than operators, and the
whole has at most one more. -/
structure Sparse (parts : List Part) : Prop where
  whole : operandCount parts ≤ operatorCount parts + 1
  beginnings : ∀ front back, parts = front ++ back → back ≠ [] →
    operandCount front ≤ operatorCount front

namespace Sparse

theorem nil : Sparse [] where
  whole := Nat.zero_le _
  beginnings _ _ h hback := absurd (List.append_eq_nil_iff.mp h.symm).2 hback

theorem operand {part : Part} (plain : part.isOperator = false) : Sparse [part] where
  whole := by simp [operandCount, operatorCount, plain]
  beginnings front back h hback := by
    rcases List.append_eq_singleton_iff.mp h.symm with ⟨rfl, _⟩ | ⟨_, rfl⟩
    · exact Nat.le_refl _
    · exact absurd rfl hback

theorem apply (symbol : String) {ps qs : List Part} (hp : Sparse ps) (hq : Sparse qs) :
    Sparse (.operator symbol :: (ps ++ qs)) where
  whole := by
    have := hp.whole
    have := hq.whole
    simp only [operandCount_operator, operatorCount_operator, operandCount_append,
      operatorCount_append]
    omega
  beginnings front back h hback := by
    cases front with
    | nil => exact Nat.le_refl _
    | cons p front =>
      simp only [List.cons_append, List.cons.injEq] at h
      obtain ⟨rfl, h⟩ := h
      rw [operandCount_operator, operatorCount_operator]
      -- The beginning ends in one of the two sequences. If it holds the whole first one, the
      -- operator makes up for the operand that the first one has too many.
      rcases List.append_eq_append_iff.mp h with ⟨more, rfl, hqs⟩ | ⟨more, rfl, hback'⟩
      · have := hp.whole
        have := hq.beginnings more back hqs hback
        simp only [operandCount_append, operatorCount_append]
        omega
      · cases more with
        | nil =>
          have := hp.whole
          simp only [List.append_nil] at this
          exact this
        | cons q more =>
          have := hp.beginnings front (q :: more) rfl (by simp)
          omega

theorem parts (t : Tree) : Sparse t.parts := by
  induction t with
  | operand part plain => exact .operand plain
  | apply symbol left right ihl ihr => exact .apply symbol ihl ihr

end Sparse

namespace Tree

/-- **Nothing stands behind a prefix form that a sparse sequence begins with**: counted, it would
be a beginning with too many operands. -/
theorem rest_eq_nil {t : Tree} {rest : List Part}
    (h : ∀ front back, t.parts ++ rest = front ++ back → back ≠ [] →
      operandCount front ≤ operatorCount front) : rest = [] := by
  cases rest with
  | nil => rfl
  | cons p rest =>
    have hle := h t.parts (p :: rest) rfl (by simp)
    rw [t.operandCount_parts] at hle
    omega

theorem exists_parts_eq_iff {t : Tree} {rest : List Part} :
    (∃ u : Tree, t.parts ++ rest = u.parts) ↔ rest = [] := by
  constructor
  · rintro ⟨u, h⟩
    exact (parts_append_cancel (h.trans (List.append_nil _).symm)).2
  · rintro rfl
    exact ⟨t, List.append_nil _⟩

/-- Whether a sequence that begins with a prefix form is one can be told by counting. -/
theorem exists_parts_eq_iff_beginnings {t : Tree} {rest : List Part} :
    (∃ u : Tree, t.parts ++ rest = u.parts) ↔
      ∀ front back, t.parts ++ rest = front ++ back → back ≠ [] →
        operandCount front ≤ operatorCount front := by
  constructor
  · rintro ⟨u, h⟩
    exact h ▸ (Sparse.parts u).beginnings
  · exact fun h => exists_parts_eq_iff.mpr (rest_eq_nil h)

end Tree

end RuleLang
