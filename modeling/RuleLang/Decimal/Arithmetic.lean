import RuleLang.Decimal.Basic
import RuleLang.Rounding

/-!
# Decimal arithmetic

Each operation is the exact result brought back to a decimal: of all scales up to 28 the largest
is taken at which the exact result, rounded to the nearest decimal of that scale (a tie going to
the even one), has a coefficient that fits. If there is none, the operation overflows.

The result depends on the values of the operands alone, not on their scales, and is in normal form.
-/

set_option autoImplicit false

namespace RuleLang.Decimal

/-- The coefficient and scale of `num / den` at the largest scale, from the given one down, at
which it fits. -/
def fit? (num den : Nat) : Nat → Option (Nat × Nat)
  | 0 =>
    let c := roundHalfEven num den
    if c < Nat.pow 2 96 then some (c, 0) else none
  | scale + 1 =>
    let c := roundHalfEven (num * Nat.pow 10 (scale + 1)) den
    if c < Nat.pow 2 96 then some (c, scale + 1) else fit? num den scale

/-- The decimal of `± num / den`, in normal form; none if it is too large. -/
def ofRatio? (negative : Bool) (num den : Nat) : Option Decimal := do
  let (coefficient, scale) ← fit? num den 28
  let d ← ofParts? negative coefficient scale
  some d.normalize

def ofSignedRatio? (num : Int) (den : Nat) : Option Decimal :=
  ofRatio? (decide (num < 0)) num.natAbs den

def add? (a b : Decimal) : Option Decimal :=
  ofSignedRatio? (a.signed * Int.pow 10 b.scale + b.signed * Int.pow 10 a.scale)
    (Nat.pow 10 (a.scale + b.scale))

def sub? (a b : Decimal) : Option Decimal :=
  ofSignedRatio? (a.signed * Int.pow 10 b.scale - b.signed * Int.pow 10 a.scale)
    (Nat.pow 10 (a.scale + b.scale))

def mul? (a b : Decimal) : Option Decimal :=
  ofSignedRatio? (a.signed * b.signed) (Nat.pow 10 (a.scale + b.scale))

/-- The quotient; the divisor is not zero. -/
def div? (a b : Decimal) : Option Decimal :=
  ofRatio? (a.negative != b.negative) (a.coefficient * Nat.pow 10 b.scale)
    (b.coefficient * Nat.pow 10 a.scale)

end RuleLang.Decimal
