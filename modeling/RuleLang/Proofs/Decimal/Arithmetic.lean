import RuleLang.Decimal.Arithmetic
import RuleLang.Proofs.Decimal.Value

/-!
# Arithmetic goes by value

Every operation on decimals is the operation on their values, brought back to a decimal once
(`add?_eq`, `sub?_eq`, `mul?_eq`, `div?_eq`). That is because a quotient is rounded in the same way
however it is written (`ofRatio?_congr`): multiplied by a common factor, neither its whole part nor
the place of its rest between two whole numbers changes.
-/

set_option autoImplicit false

namespace RuleLang

/-- A common factor does not change how a quotient is rounded. -/
theorem roundHalfEven_mul_right (num den : Nat) {k : Nat} (hk : 0 < k) :
    roundHalfEven (num * k) (den * k) = roundHalfEven num den := by
  have hquotient : num * k / (den * k) = num / den := Nat.mul_div_mul_right num den hk
  have hrest : 2 * (num * k % (den * k)) = 2 * (num % den) * k := by
    rw [Nat.mul_mod_mul_right, Nat.mul_assoc]
  have hlt : den * k < 2 * (num % den) * k ↔ den < 2 * (num % den) :=
    Nat.mul_lt_mul_right hk
  have heq : 2 * (num % den) * k = den * k ↔ 2 * (num % den) = den :=
    Nat.mul_left_inj (Nat.pos_iff_ne_zero.mp hk)
  unfold roundHalfEven
  simp only [hquotient, hrest, hlt, heq]

namespace Decimal

/-! ## Quotients -/

theorem fit?_mul_right (num den : Nat) {k : Nat} (hk : 0 < k) (scale : Nat) :
    fit? (num * k) (den * k) scale = fit? num den scale := by
  induction scale with
  | zero => rw [fit?, fit?, roundHalfEven_mul_right num den hk]
  | succ scale ih =>
    rw [fit?, fit?, ih, Nat.mul_right_comm num k, roundHalfEven_mul_right _ den hk]

variable {num num' den den' : Nat} {negative negative' : Bool}

theorem fit?_congr (hden : 0 < den) (hden' : 0 < den') (h : num * den' = num' * den)
    (scale : Nat) : fit? num den scale = fit? num' den' scale := by
  calc fit? num den scale
      = fit? (num * den') (den * den') scale := (fit?_mul_right num den hden' scale).symm
    _ = fit? (num' * den) (den' * den) scale := by rw [h, Nat.mul_comm den den']
    _ = fit? num' den' scale := fit?_mul_right num' den' hden scale

/-- A zero has no sign. -/
theorem ofRatio?_zero (negative negative' : Bool) (den : Nat) :
    ofRatio? negative 0 den = ofRatio? negative' 0 den := by
  have hround : roundHalfEven 0 den = 0 := by simp [roundHalfEven]
  have hfit : fit? 0 den 28 = some (0, 28) := by
    rw [fit?, Nat.zero_mul, hround]
    rfl
  unfold ofRatio?
  rw [hfit]
  cases negative <;> cases negative' <;> rfl

/-- **A quotient is brought back to one decimal, however it is written.** -/
theorem ofRatio?_congr (hden : 0 < den) (hden' : 0 < den') (h : num * den' = num' * den)
    (hsign : num ≠ 0 → negative = negative') :
    ofRatio? negative num den = ofRatio? negative' num' den' := by
  have hratio : ofRatio? negative' num den = ofRatio? negative' num' den' := by
    unfold ofRatio?
    rw [fit?_congr hden hden' h]
  by_cases hzero : num = 0
  · rw [← hratio, hzero]
    exact ofRatio?_zero negative negative' den
  · rw [hsign hzero, hratio]

theorem ofSignedRatio?_congr {num num' : ℤ} (hden : 0 < den) (hden' : 0 < den')
    (h : num * den' = num' * den) : ofSignedRatio? num den = ofSignedRatio? num' den' := by
  have hfactor (n : ℤ) {d : ℕ} (hd : 0 < d) : n * d < 0 ↔ n < 0 := by
    have hd' : (0 : ℤ) < d := by exact_mod_cast hd
    simpa using mul_lt_mul_iff_of_pos_right (b := n) (c := 0) hd'
  have hneg : num < 0 ↔ num' < 0 := by
    rw [← hfactor num hden', h, hfactor num' hden]
  refine ofRatio?_congr hden hden' ?_ fun _ => by simp only [hneg]
  simpa [Int.natAbs_mul] using congrArg Int.natAbs h

/-- The decimal that a number is brought back to; none if it is too large. -/
def ofRational? (q : ℚ) : Option Decimal := ofSignedRatio? q.num q.den

theorem num_mul_den {q : ℚ} {num : ℤ} (hden : 0 < den) (h : num / den = q) :
    num * q.den = q.num * den := by
  have hq : (num : ℚ) / den = q.num / q.den := by rw [h, Rat.num_div_den]
  rw [div_eq_div_iff (by positivity) (by positivity)] at hq
  exact_mod_cast hq

theorem ofSignedRatio?_eq {q : ℚ} {num : ℤ} (hden : 0 < den) (h : num / den = q) :
    ofSignedRatio? num den = ofRational? q :=
  ofSignedRatio?_congr hden q.den_pos (num_mul_den hden h)

/-! ## The operations -/

variable (a b : Decimal)

theorem ten_pow_pos (n : Nat) : 0 < Nat.pow 10 n := Nat.pow_pos (by decide)

theorem add?_eq : a.add? b = ofRational? (a.value + b.value) := by
  refine ofSignedRatio?_eq (ten_pow_pos _) ?_
  unfold value
  simp only [Int.pow_eq, Nat.pow_eq]
  push_cast
  field_simp
  ring

theorem sub?_eq : a.sub? b = ofRational? (a.value - b.value) := by
  refine ofSignedRatio?_eq (ten_pow_pos _) ?_
  unfold value
  simp only [Int.pow_eq, Nat.pow_eq]
  push_cast
  field_simp
  ring

theorem mul?_eq : a.mul? b = ofRational? (a.value * b.value) := by
  refine ofSignedRatio?_eq (ten_pow_pos _) ?_
  unfold value
  simp only [Nat.pow_eq]
  push_cast
  field_simp
  ring

variable {b} in
/-- The quotient has a sign if one of the two has, and not the other. -/
theorem div_neg_iff_of_ne_zero (ha : a.coefficient ≠ 0) (hb : b.coefficient ≠ 0) :
    a.value / b.value < 0 ↔ (a.negative != b.negative) = true := by
  rw [div_neg_iff, value_pos_iff, value_neg_iff, value_neg_iff, value_pos_iff]
  cases a.negative <;> cases b.negative <;> simp [ha, hb]

theorem div?_eq (h : b.isZero = false) : a.div? b = ofRational? (a.value / b.value) := by
  have hb : b.coefficient ≠ 0 := by simpa [isZero] using h
  have hsigned : (b.signed : ℚ) ≠ 0 := by
    rw [Int.cast_ne_zero, ← Int.natAbs_ne_zero, natAbs_signed]
    exact hb
  have hcross : a.signed * 10 ^ b.scale * (a.value / b.value).den =
      (a.value / b.value).num * (b.signed * 10 ^ a.scale) := by
    have hq : (a.signed * 10 ^ b.scale : ℚ) / (b.signed * 10 ^ a.scale) =
        (a.value / b.value).num / (a.value / b.value).den := by
      rw [Rat.num_div_den]
      unfold value
      field_simp
    rw [div_eq_div_iff (by positivity) (by positivity)] at hq
    exact_mod_cast hq
  refine ofRatio?_congr (Nat.mul_pos (Nat.pos_of_ne_zero hb) (ten_pow_pos _)) (Rat.den_pos _) ?_ ?_
  · simpa [Int.natAbs_mul, Int.natAbs_pow, natAbs_signed] using congrArg Int.natAbs hcross
  · intro hnum
    have ha : a.coefficient ≠ 0 := left_ne_zero_of_mul hnum
    rw [Bool.eq_iff_iff, decide_eq_true_iff, Rat.num_neg, div_neg_iff_of_ne_zero a ha hb]

end Decimal

end RuleLang
