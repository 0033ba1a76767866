import RuleLang.Binary64.Basic

/-!
# The shortest digits of a double

A double is written with the fewest digits that read back as the same double, and of those with
the nearest. Every number between the two midpoints to the neighbouring doubles reads back, the
midpoints themselves where the significand is even. For one digit, two digits and so on, the two
decimal numbers next to the double on the grid of that many digits are tried; seventeen always
suffice.
-/

set_option autoImplicit false

namespace RuleLang.Binary64

/-- Digits without zeros at the end, and the power of ten of the first of them. -/
structure Digits where
  digits : List Char
  exponent : Int
deriving DecidableEq, Repr

/-- The numbers that read back as a double, in quarters of the least double's unit. -/
structure Interval where
  low : Nat
  value : Nat
  high : Nat
  closed : Bool

/-- Below a power of two the neighbour is only half as far away as above it. -/
def interval (x : Binary64) : Interval where
  low := 4 * x.units -
    (if x.significand = Nat.pow 2 52 ∧ x.shift ≠ 0 then Nat.pow 2 x.shift
    else 2 * Nat.pow 2 x.shift)
  value := 4 * x.units
  high := 4 * x.units + 2 * Nat.pow 2 x.shift
  closed := x.significand % 2 == 0

/-- The power of ten of the first digit of a value, given in the units of an interval. -/
def decimalExponent (value : Nat) : Int :=
  ((Nat.toDigits 10 (value * Nat.pow 10 400 / Nat.pow 2 1076)).length : Int) - 401

def dropTrailingZeros (cs : List Char) : List Char := (cs.reverse.dropWhile (· == '0')).reverse

/-- The digits of a whole number of grid steps, the step being a power of ten. -/
def Digits.ofSteps (steps : Nat) (step : Int) : Digits :=
  let all := Nat.toDigits 10 steps
  ⟨dropTrailingZeros all, step + all.length - 1⟩

/-- The nearer of the two neighbours on the grid of a step that read back, if one does. -/
def onGrid? (i : Interval) (step : Int) : Option Digits :=
  let up := Nat.pow 10 step.toNat * Nat.pow 2 1076
  let down := Nat.pow 10 (-step).toNat
  let readsBack := fun (steps : Nat) =>
    if i.closed then i.low * down ≤ steps * up ∧ steps * up ≤ i.high * down
    else i.low * down < steps * up ∧ steps * up < i.high * down
  let below := i.value * down / up
  match decide (readsBack below), decide (readsBack (below + 1)) with
  | true, false => some (.ofSteps below step)
  | false, true => some (.ofSteps (below + 1) step)
  | true, true => some (.ofSteps (roundHalfEven (i.value * down) up) step)
  | false, false => none

/-- Tries grids of ever more digits, `step` being that of the first and `more` their number. -/
def firstGrid (i : Interval) (step : Int) : Nat → Digits
  | 0 =>
    .ofSteps (i.value * Nat.pow 10 (-step).toNat / (Nat.pow 10 step.toNat * Nat.pow 2 1076)) step
  | more + 1 =>
    match onGrid? i step with
    | some digits => digits
    | none => firstGrid i (step - 1) more

def shortest (x : Binary64) : Digits :=
  let i := x.interval
  firstGrid i (decimalExponent i.value) 17

end RuleLang.Binary64
