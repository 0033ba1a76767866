import RuleLang.Rounding

/-!
# Double-precision numbers

The finite doubles without a sign, which is what JSON numbers beyond the 64-bit integers are read
into and what a decimal with a fraction is written from. A double is a significand below `2 ^ 53`
and a shift: its value is `significand * 2 ^ shift / 2 ^ 1074`, so all of them are whole multiples
of the least one and every operation is arithmetic on natural numbers, rounded once (`ofRatio?`).
There is no infinity: what would be one is `none`.
-/

set_option autoImplicit false

namespace RuleLang

/-- The double `significand * 2 ^ shift / 2 ^ 1074`. A shift is used only where the significand
has its full length, so every value has one representation. -/
structure Binary64 where
  significand : Nat
  shift : Nat
  significand_lt : significand < Nat.pow 2 53
  full_or_least : Nat.pow 2 52 ≤ significand ∨ shift = 0
  shift_le : shift ≤ 2045
deriving DecidableEq, Repr

namespace Binary64

def ofParts? (significand shift : Nat) : Option Binary64 :=
  if h : significand < Nat.pow 2 53 ∧ (Nat.pow 2 52 ≤ significand ∨ shift = 0) ∧
      shift ≤ 2045 then
    some ⟨significand, shift, h.1, h.2.1, h.2.2⟩
  else none

instance : Inhabited Binary64 := ⟨⟨0, 0, by decide, Or.inr rfl, by decide⟩⟩

/-- The value in units of the least double, `2 ^ -1074`. -/
def units (x : Binary64) : Nat := x.significand * Nat.pow 2 x.shift

def isZero (x : Binary64) : Bool := x.significand == 0

/-- The double nearest to `num / den`, a tie going to the even significand; none if that is beyond
the greatest double. -/
def ofRatio? (num den : Nat) : Option Binary64 :=
  let shift := Nat.log2 (num * Nat.pow 2 1074 / den) - 52
  let significand := roundHalfEven (num * Nat.pow 2 1074) (den * Nat.pow 2 shift)
  if significand = Nat.pow 2 53 then ofParts? (Nat.pow 2 52) (shift + 1)
  else ofParts? significand shift

def ofNat? (n : Nat) : Option Binary64 := ofRatio? n 1

def add? (x y : Binary64) : Option Binary64 := ofRatio? (x.units + y.units) (Nat.pow 2 1074)

def mul? (x y : Binary64) : Option Binary64 := ofRatio? (x.units * y.units) (Nat.pow 2 2148)

/-- The quotient; the divisor is not zero. -/
def div? (x y : Binary64) : Option Binary64 := ofRatio? x.units y.units

/-- The whole number nearest to a double, a half going up. -/
def round (x : Binary64) : Nat := roundHalfUp x.units (Nat.pow 2 1074)

def powerOfTen? (exponent : Nat) : Option Binary64 := ofNat? (Nat.pow 10 exponent)

end Binary64

end RuleLang
