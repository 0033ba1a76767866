/-!
# Rounding a quotient

The two ways a quotient of natural numbers is brought to a whole number: to the nearest one, and
where two are equally near, either to the even one or to the larger one. Everything in the library
that rounds — decimal arithmetic, reading a number with too many digits, the floating-point
numbers of JSON — says so through one of these.
-/

set_option autoImplicit false

namespace RuleLang

/-- The whole number nearest to `num / den`; of two equally near the even one. -/
def roundHalfEven (num den : Nat) : Nat :=
  let quotient := num / den
  let rest := 2 * (num % den)
  if den < rest ∨ (rest = den ∧ quotient % 2 = 1) then quotient + 1 else quotient

/-- The whole number nearest to `num / den`; of two equally near the larger one. -/
def roundHalfUp (num den : Nat) : Nat := (2 * num + den) / (2 * den)

/-- A quotient that is whole is not changed. -/
theorem roundHalfEven_mul (n : Nat) {den : Nat} (h : 0 < den) :
    roundHalfEven (n * den) den = n := by
  simp [roundHalfEven, Nat.mul_div_cancel n h]
  omega

end RuleLang
