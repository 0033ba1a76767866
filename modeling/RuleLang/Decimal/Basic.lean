/-!
# Decimal numbers

The numbers of the rule language: a coefficient of 96 bits with a sign and a scale, that is, a
count of digits after the point. The scale is part of a number (`25` and `25.00` are different
decimals of the same value), because a field may be shown as it was written; every comparison and
every text that a rule produces goes through the value alone.

`normalize` drops the zeros at the end of the fraction and the sign of a zero, which leaves one
decimal for every value.
-/

set_option autoImplicit false

namespace RuleLang

/-- The number `± coefficient / 10 ^ scale`. -/
structure Decimal where
  negative : Bool
  coefficient : Nat
  scale : Nat
  coefficient_lt : coefficient < Nat.pow 2 96
  scale_le : scale ≤ 28
deriving DecidableEq, Repr

namespace Decimal

def ofParts? (negative : Bool) (coefficient scale : Nat) : Option Decimal :=
  if h : coefficient < Nat.pow 2 96 ∧ scale ≤ 28 then
    some ⟨negative, coefficient, scale, h.1, h.2⟩
  else none

instance : Inhabited Decimal := ⟨⟨false, 0, 0, by decide, by decide⟩⟩

/-- A whole number, if its magnitude is within the limit. -/
def ofInt? (n : Int) : Option Decimal := ofParts? (decide (n < 0)) n.natAbs 0

def signed (d : Decimal) : Int := if d.negative then -(d.coefficient : Int) else d.coefficient

def isZero (d : Decimal) : Bool := d.coefficient == 0

/-- The order of the values: both are brought to a common scale and compared as whole numbers. -/
def compare (a b : Decimal) : Ordering :=
  Ord.compare (a.signed * Int.pow 10 b.scale) (b.signed * Int.pow 10 a.scale)

/-! ## Normal form -/

/-- Drops the zeros at the end of a fraction; the result is a coefficient and its scale. -/
def dropZeros (coefficient : Nat) : Nat → Nat × Nat
  | 0 => (coefficient, 0)
  | scale + 1 =>
    if coefficient % 10 = 0 then dropZeros (coefficient / 10) scale else (coefficient, scale + 1)

theorem dropZeros_fst_le (scale : Nat) : ∀ (c : Nat), (dropZeros c scale).1 ≤ c := by
  induction scale with
  | zero => intro c; exact Nat.le_refl _
  | succ scale ih =>
    intro c
    rw [dropZeros]
    split
    · exact Nat.le_trans (ih _) (Nat.div_le_self _ _)
    · exact Nat.le_refl _

theorem dropZeros_snd_le (scale : Nat) : ∀ (c : Nat), (dropZeros c scale).2 ≤ scale := by
  induction scale with
  | zero => intro c; exact Nat.le_refl _
  | succ scale ih =>
    intro c
    rw [dropZeros]
    split
    · exact Nat.le_succ_of_le (ih _)
    · exact Nat.le_refl _

/-- The same value with the least scale; a zero has no sign. -/
def normalize (d : Decimal) : Decimal where
  negative := d.negative && d.coefficient != 0
  coefficient := (dropZeros d.coefficient d.scale).1
  scale := (dropZeros d.coefficient d.scale).2
  coefficient_lt := Nat.lt_of_le_of_lt (dropZeros_fst_le _ _) d.coefficient_lt
  scale_le := Nat.le_trans (dropZeros_snd_le _ _) d.scale_le

end Decimal

end RuleLang
