import RuleLang.Decimal.Basic

/-!
# Decimals as text

A decimal is written with exactly as many digits after the point as its scale says, at least one
digit before it, and a minus sign if it has one. Without a fraction there is no point.
-/

set_option autoImplicit false

namespace RuleLang.Decimal

/-- The last `count` digits of a number, zeros in front included. -/
def lastDigits : Nat → Nat → List Char
  | 0, _ => []
  | count + 1, n => lastDigits count (n / 10) ++ [Nat.digitChar (n % 10)]

def chars (d : Decimal) : List Char :=
  (if d.negative then ['-'] else []) ++
    Nat.toDigits 10 (d.coefficient / Nat.pow 10 d.scale) ++
    (if d.scale = 0 then [] else '.' :: lastDigits d.scale d.coefficient)

def toText (d : Decimal) : String := String.ofList d.chars

/-- The text of the value of a decimal: of the decimals of one value all have the same. -/
def valueText (d : Decimal) : String := d.normalize.toText

end RuleLang.Decimal
