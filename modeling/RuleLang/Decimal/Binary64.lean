import RuleLang.Decimal.Basic
import RuleLang.Binary64.Basic

/-!
# The double of a decimal

A decimal with a fraction is turned into a double part by part: the whole part and the fraction
are converted by themselves and added, and the sum is rounded at the decimal's own scale. Every
step rounds, so the result is not always the double nearest to the decimal: `1e-28` becomes
`1.0000000000000001e-28`.
-/

set_option autoImplicit false

namespace RuleLang

/-- `result * x ^ exponent` by repeated squaring, every product being rounded. -/
def Binary64.timesPower? (result x : Binary64) (exponent : Nat) : Option Binary64 :=
  if exponent = 0 then some result
  else do
    let result ← if exponent % 2 = 1 then result.mul? x else some result
    timesPower? result (← x.mul? x) (exponent / 2)
termination_by exponent
decreasing_by omega

/-- The double of the magnitude of a decimal. -/
def Decimal.toBinary64? (d : Decimal) : Option Binary64 := do
  let unit := Nat.pow 10 d.scale
  let whole ← Binary64.ofNat? (d.coefficient / unit)
  let fraction ← (← Binary64.ofNat? (d.coefficient % unit)).div? (← Binary64.ofNat? unit)
  if fraction.isZero then some whole
  else
    let power ← (← Binary64.ofNat? 1).timesPower? (← Binary64.ofNat? 10) d.scale
    let scaled ← (← whole.add? fraction).mul? power
    (← Binary64.ofNat? scaled.round).div? power

end RuleLang
