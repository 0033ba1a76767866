import RuleLang.Decimal.Basic

/-!
# Reading decimals

What counts as a number. The plain form is an optional sign, digits and at most one point, with
underscores anywhere after the first digit. The scientific form is a plain number, an `e` and an
exponent of at most 28 either way; it is tried where the plain form fails. What reads the numbers
of rules and records tries the scientific form once more where both have failed, which finds no
more numbers (`ofTextOrScientific?_eq`).

A number may have more digits than a decimal can hold. Before the point that is an error; after
the point the digits that fit are kept and the next one decides the rounding, a five going up.
When rounding overflows the coefficient, the last digit is given up for it.
-/

set_option autoImplicit false

namespace RuleLang.Decimal

/-! ## Digits -/

def digit? (c : Char) : Option Nat := if c.isDigit then some (c.toNat - '0'.toNat) else none

/-- The digits of a text in which underscores may stand between them. -/
def digits? (cs : List Char) : Option (List Nat) := (cs.filter (· != '_')).mapM digit?

def ofDigits (digits : List Nat) : Nat := digits.foldl (fun n d => 10 * n + d) 0

def startsWithDigit : List Char → Bool
  | [] => false
  | c :: _ => c.isDigit

/-! ## Plain numbers -/

/-- Whether a text begins with a minus, and the text without its sign. -/
def splitSign : List Char → Bool × List Char
  | '-' :: rest => (true, rest)
  | '+' :: rest => (false, rest)
  | cs => (false, cs)

/-- What stands before the first point and what stands after it. -/
def splitPoint (cs : List Char) : List Char × List Char :=
  (cs.takeWhile (· != '.'), (cs.dropWhile (· != '.')).drop 1)

/-- Takes the digit that no longer fits into account: a five or more rounds up. -/
def roundLast (coefficient scale digit : Nat) : Option (Nat × Nat) :=
  if digit < 5 then some (coefficient, scale)
  else if coefficient + 1 < Nat.pow 2 96 then some (coefficient + 1, scale)
  else match scale with
    | 0 => none
    | scale + 1 => some ((coefficient + 5) / 10, scale)

/-- Appends the digits of a fraction to a coefficient, as far as they fit. -/
def appendFraction (coefficient scale : Nat) : List Nat → Option (Nat × Nat)
  | [] => some (coefficient, scale)
  | digit :: rest =>
    if scale < 28 ∧ 10 * coefficient + digit < Nat.pow 2 96 then
      appendFraction (10 * coefficient + digit) (scale + 1) rest
    else roundLast coefficient scale digit

/-- Reads a plain number. A zero has no sign, but keeps its scale. -/
def plain? (cs : List Char) : Option Decimal := do
  let (negative, body) := splitSign cs
  let (whole, fraction) := splitPoint body
  guard (startsWithDigit (whole ++ fraction))
  let whole ← digits? whole
  let fraction ← digits? fraction
  guard (ofDigits whole < Nat.pow 2 96)
  let (coefficient, scale) ← appendFraction (ofDigits whole) 0 fraction
  ofParts? (negative && coefficient != 0) coefficient scale

/-! ## Scientific numbers -/

def exponentDigits? (cs : List Char) : Option Nat := do
  let body := match cs with
    | '+' :: rest => rest
    | _ => cs
  guard (!body.isEmpty)
  let digits ← body.mapM digit?
  guard (ofDigits digits ≤ 28)
  some (ofDigits digits)

/-- Divides by a power of ten by raising the scale. Digits that the greatest scale has no room for
are dropped, the first of them deciding the rounding, a five going up. -/
def lowered? (d : Decimal) (exponent : Nat) : Option Decimal :=
  if d.scale + exponent ≤ 28 then ofParts? d.negative d.coefficient (d.scale + exponent)
  else
    let dropped := d.scale + exponent - 28
    let up := if 5 ≤ d.coefficient / Nat.pow 10 (dropped - 1) % 10 then 1 else 0
    ofParts? d.negative (d.coefficient / Nat.pow 10 dropped + up) 28

/-- Multiplies by a power of ten, by lowering the scale as far as that goes. -/
def raised? (d : Decimal) (exponent : Nat) : Option Decimal :=
  if exponent ≤ d.scale then ofParts? d.negative d.coefficient (d.scale - exponent)
  else ofParts? d.negative (d.coefficient * Nat.pow 10 (exponent - d.scale)) 0

def scientific? (cs : List Char) : Option Decimal :=
  let isMark := fun c => c == 'e' || c == 'E'
  match cs.dropWhile (!isMark ·) with
  | [] => none
  | _ :: exponent => do
    let base ← plain? (cs.takeWhile (!isMark ·))
    match exponent with
    | '-' :: exponent => base.lowered? (← exponentDigits? exponent)
    | _ => base.raised? (← exponentDigits? exponent)

/-! ## Numbers -/

def ofChars? (cs : List Char) : Option Decimal := plain? cs <|> scientific? cs

/-- The decimal that a text writes; blanks around it are not part of a number. -/
def ofText? (s : String) : Option Decimal := ofChars? s.toList

/-- Reads a number in steps: the empty text is none, and where reading fails the text is read once
more, as a number with an exponent. -/
def ofTextOrScientific? (s : String) : Option Decimal :=
  if s.isEmpty then none else ofText? s <|> scientific? s.toList

/-- **The second attempt finds no more numbers than the first.** -/
theorem ofTextOrScientific?_eq (s : String) : ofTextOrScientific? s = ofText? s := by
  unfold ofTextOrScientific?
  split
  · next hempty =>
    rw [String.isEmpty_iff.mp hempty]
    rfl
  · rw [ofText?, ofChars?]
    cases plain? s.toList <;> cases scientific? s.toList <;> rfl

end RuleLang.Decimal
