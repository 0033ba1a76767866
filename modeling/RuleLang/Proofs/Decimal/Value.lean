import Mathlib.Algebra.Order.Field.Basic
import Mathlib.Algebra.Order.Ring.Unbundled.Rat
import Mathlib.Data.Rat.Cast.Order
import Mathlib.Tactic.FieldSimp
import Mathlib.Tactic.LinearCombination
import Mathlib.Tactic.Positivity
import Mathlib.Tactic.Ring
import RuleLang.Value.Json

/-!
# The value of a decimal

A decimal is a rational number that is written at a scale. The order of decimals is that of the
numbers (`compare_eq`), and **there is one normal form for every number** (`normalize_congr`): two
fractions without zeros at their ends are equal only if they are the same digits at the same scale.
So what is said of a decimal through its normal form is said of its value, and its text and its JSON
value do not tell the scale it was written at.
-/

set_option autoImplicit false

namespace RuleLang.Decimal

/-- The number that a decimal stands for. -/
def value (d : Decimal) : ℚ := d.signed / 10 ^ d.scale

variable {a b : Decimal}

/-! ## Equal values -/

theorem value_eq_iff :
    a.value = b.value ↔ a.signed * 10 ^ b.scale = b.signed * 10 ^ a.scale := by
  unfold value
  rw [div_eq_div_iff (by positivity) (by positivity)]
  exact_mod_cast Iff.rfl

theorem value_lt_iff :
    a.value < b.value ↔ a.signed * 10 ^ b.scale < b.signed * 10 ^ a.scale := by
  unfold value
  rw [div_lt_div_iff₀ (by positivity) (by positivity)]
  exact_mod_cast Iff.rfl

/-- **Decimals are ordered as their values are.** -/
theorem compare_eq (a b : Decimal) : a.compare b = compareOfLessAndEq a.value b.value := by
  show compareOfLessAndEq (a.signed * 10 ^ b.scale) (b.signed * 10 ^ a.scale) = _
  simp only [compareOfLessAndEq, value_lt_iff, value_eq_iff]

theorem natAbs_signed (d : Decimal) : d.signed.natAbs = d.coefficient := by
  unfold signed
  split <;> simp

theorem signed_neg_iff (d : Decimal) :
    d.signed < 0 ↔ d.negative = true ∧ d.coefficient ≠ 0 := by
  unfold signed
  cases d.negative with
  | true => simp; omega
  | false => simp

theorem value_neg_iff (d : Decimal) : d.value < 0 ↔ d.negative = true ∧ d.coefficient ≠ 0 := by
  rw [← signed_neg_iff, value, div_lt_iff₀ (by positivity), zero_mul, Int.cast_lt_zero]

theorem coefficient_mul_of_value_eq (h : a.value = b.value) :
    a.coefficient * 10 ^ b.scale = b.coefficient * 10 ^ a.scale := by
  have hsigned := congrArg Int.natAbs (value_eq_iff.mp h)
  simpa [Int.natAbs_mul, Int.natAbs_pow, natAbs_signed] using hsigned

theorem isZero_iff (d : Decimal) : d.isZero = true ↔ d.value = 0 := by
  have hsigned : d.signed = 0 ↔ d.coefficient = 0 := by
    rw [← natAbs_signed, Int.natAbs_eq_zero]
  unfold isZero value
  rw [beq_iff_eq, ← hsigned]
  simp

theorem isZero_congr (h : a.value = b.value) : a.isZero = b.isZero := by
  rw [Bool.eq_iff_iff, isZero_iff, isZero_iff, h]

theorem value_eq_zero_iff (d : Decimal) : d.value = 0 ↔ d.coefficient = 0 := by
  rw [← isZero_iff, isZero, beq_iff_eq]

theorem value_pos_iff (d : Decimal) :
    0 < d.value ↔ d.negative = false ∧ d.coefficient ≠ 0 := by
  have hzero : (0 : ℚ) ≠ d.value ↔ d.coefficient ≠ 0 := by
    rw [ne_comm, ne_eq, value_eq_zero_iff]
  rw [lt_iff_le_and_ne, ← not_lt, value_neg_iff, hzero]
  cases d.negative with
  | false => simp
  | true => simp

/-! ## Fractions without zeros at their ends -/

/-- Dropping zeros does not change the value. -/
theorem dropZeros_mul (scale : Nat) : ∀ (c : Nat),
    (dropZeros c scale).1 * 10 ^ scale = c * 10 ^ (dropZeros c scale).2 := by
  induction scale with
  | zero => exact fun _ => rfl
  | succ scale ih =>
    intro c
    rw [dropZeros]
    split
    · next hzero =>
      have hc : c / 10 * 10 = c := Nat.div_mul_cancel (Nat.dvd_of_mod_eq_zero hzero)
      calc (dropZeros (c / 10) scale).1 * 10 ^ (scale + 1)
          = (dropZeros (c / 10) scale).1 * 10 ^ scale * 10 := by ring
        _ = c / 10 * 10 * 10 ^ (dropZeros (c / 10) scale).2 := by rw [ih]; ring
        _ = c * 10 ^ (dropZeros (c / 10) scale).2 := by rw [hc]
    · rfl

/-- No zeros are left at the end of a fraction. -/
theorem dropZeros_end (scale : Nat) : ∀ (c : Nat),
    (dropZeros c scale).2 = 0 ∨ (dropZeros c scale).1 % 10 ≠ 0 := by
  induction scale with
  | zero => exact fun _ => .inl rfl
  | succ scale ih =>
    intro c
    rw [dropZeros]
    split
    · exact ih _
    · next hend => exact .inr hend

section Fractions

variable {c c' s s' : Nat} (h : c * 10 ^ s' = c' * 10 ^ s)
include h

/-- A fraction without zeros at its end is not written at a larger scale than an equal one. -/
theorem scale_le_of_end (hend : s' = 0 ∨ c' % 10 ≠ 0) : s' ≤ s := by
  by_contra hlt
  obtain ⟨k, rfl⟩ : ∃ k, s' = s + (k + 1) := ⟨s' - s - 1, by omega⟩
  have hc : c' = c * 10 ^ k * 10 := by
    refine Nat.eq_of_mul_eq_mul_right (Nat.pow_pos (by decide : 0 < 10) (n := s)) ?_
    rw [← h]
    ring
  omega

/-- **Equal fractions without zeros at their ends are the same.** -/
theorem eq_of_ends (hend : s = 0 ∨ c % 10 ≠ 0) (hend' : s' = 0 ∨ c' % 10 ≠ 0) :
    c = c' ∧ s = s' := by
  have hscale : s = s' :=
    Nat.le_antisymm (scale_le_of_end h.symm hend) (scale_le_of_end h hend')
  subst hscale
  exact ⟨Nat.eq_of_mul_eq_mul_right (Nat.pow_pos (by decide)) h, rfl⟩

theorem dropZeros_congr : dropZeros c s = dropZeros c' s' := by
  have hmul := dropZeros_mul s c
  have hmul' := dropZeros_mul s' c'
  have hsame : (dropZeros c s).1 * 10 ^ (dropZeros c' s').2 =
      (dropZeros c' s').1 * 10 ^ (dropZeros c s).2 := by
    refine Nat.eq_of_mul_eq_mul_right (Nat.pow_pos (by decide : 0 < 10) (n := s + s')) ?_
    calc (dropZeros c s).1 * 10 ^ (dropZeros c' s').2 * 10 ^ (s + s')
        = (dropZeros c s).1 * 10 ^ s * (10 ^ (dropZeros c' s').2 * 10 ^ s') := by ring
      _ = c * 10 ^ s' * (10 ^ (dropZeros c s).2 * 10 ^ (dropZeros c' s').2) := by
        rw [hmul]
        ring
      _ = c' * 10 ^ (dropZeros c' s').2 * (10 ^ (dropZeros c s).2 * 10 ^ s) := by
        rw [h]
        ring
      _ = (dropZeros c' s').1 * 10 ^ (dropZeros c s).2 * 10 ^ (s + s') := by
        rw [← hmul']
        ring
  obtain ⟨hfst, hsnd⟩ := eq_of_ends hsame (dropZeros_end s c) (dropZeros_end s' c')
  exact Prod.ext hfst hsnd

end Fractions

/-! ## The normal form -/

theorem value_normalize (d : Decimal) : d.normalize.value = d.value := by
  have hmul : ((dropZeros d.coefficient d.scale).1 : ℤ) * 10 ^ d.scale =
      d.coefficient * 10 ^ (dropZeros d.coefficient d.scale).2 := by
    exact_mod_cast dropZeros_mul d.scale d.coefficient
  rw [value_eq_iff]
  unfold normalize signed
  cases d.negative with
  | false => simpa using hmul
  | true =>
    by_cases hzero : d.coefficient = 0
    · simpa [hzero] using hmul
    · simpa [hzero] using hmul

/-- **There is one normal form for every value.** -/
theorem normalize_congr (h : a.value = b.value) : a.normalize = b.normalize := by
  have hsign : (a.negative && a.coefficient != 0) = (b.negative && b.coefficient != 0) := by
    have hneg : a.value < 0 ↔ b.value < 0 := by rw [h]
    rw [value_neg_iff, value_neg_iff] at hneg
    rw [Bool.eq_iff_iff]
    simpa using hneg
  have hdrop : dropZeros a.coefficient a.scale = dropZeros b.coefficient b.scale :=
    dropZeros_congr (coefficient_mul_of_value_eq h)
  unfold normalize
  simp only [hsign, hdrop]

theorem valueText_congr (h : a.value = b.value) : a.valueText = b.valueText := by
  rw [valueText, valueText, normalize_congr h]

theorem toJson_congr (h : a.value = b.value) : a.toJson = b.toJson := by
  rw [toJson, toJson, normalize_congr h]

end RuleLang.Decimal
