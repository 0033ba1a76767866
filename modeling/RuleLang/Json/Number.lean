import RuleLang.Binary64.Shortest

/-!
# Numbers of JSON

A number of a JSON text is an integer where it is written as one and lies within the 64-bit
integers, signed or unsigned, and a double otherwise; a negative zero is a double too.

The double that a text is read into is not always the nearest one. The digits are collected into a
64-bit significand as long as they fit, the others only move the point, and the significand is
then multiplied or divided by a power of ten, each step being rounded by itself. That rule is what
`scale?` and `ofLiteral?` state.

A double is written with its shortest digits, positionally for decimal exponents from -5 to 15 and
with an exponent otherwise.
-/

set_option autoImplicit false

namespace RuleLang.Json

inductive Number where
  | integer (n : Int)
  | double (negative : Bool) (magnitude : Binary64)
deriving DecidableEq, Repr

namespace Number

/-! ## Reading -/

/-- The parts of a number as it is written. -/
structure Literal where
  negative : Bool
  /-- The digits before the point. -/
  whole : List Nat
  /-- The digits after the point, if there is one. -/
  fraction : Option (List Nat)
  /-- Whether the exponent is negative, and its digits, if there is one. -/
  exponent : Option (Bool × List Nat)

/-- A 64-bit significand and the power of ten it stands for. -/
structure Scaled where
  significand : Nat
  exponent : Int

/-- Takes in the digits before the point: those from the first that does not fit on only count. -/
def takeWhole (s : Scaled) : List Nat → Scaled
  | [] => s
  | digit :: rest =>
    if 10 * s.significand + digit < Nat.pow 2 64 then
      takeWhole { s with significand := 10 * s.significand + digit } rest
    else { s with exponent := s.exponent + (rest.length + 1) }

/-- Takes in the digits after the point: those from the first that does not fit on are ignored. -/
def takeFraction (s : Scaled) : List Nat → Scaled
  | [] => s
  | digit :: rest =>
    if 10 * s.significand + digit < Nat.pow 2 64 then
      takeFraction ⟨10 * s.significand + digit, s.exponent - 1⟩ rest
    else s

/-- Divides by the same power of ten a number of times, rounding every time; zero stays zero. -/
def divideSteps (power x : Binary64) : Nat → Option Binary64
  | 0 => some x
  | steps + 1 => if x.isZero then some x else (x.div? power).bind (divideSteps power · steps)

/-- Multiplies or divides a double by a power of ten. The powers up to 308 are one step; a larger
one makes any number but zero too large, or is divided out 308 digits at a time. -/
def scale? (x : Binary64) (exponent : Int) : Option Binary64 := do
  let steps := (exponent.natAbs - 1) / 308
  let power ← Binary64.powerOfTen? (exponent.natAbs - 308 * steps)
  if 0 ≤ exponent then
    if steps = 0 then x.mul? power else if x.isZero then some x else none
  else
    let x ← divideSteps (← Binary64.powerOfTen? 308) x steps
    if x.isZero then some x else x.div? power

/-- An exponent that a 32-bit integer cannot hold makes every number but zero too large or zero. -/
def exponentLimit : Nat := Nat.pow 2 31

/-- The number that a literal writes; none if it is beyond the doubles. -/
def ofLiteral? (l : Literal) : Option Number := do
  let ofDigits := fun (digits : List Nat) => digits.foldl (fun n d => 10 * n + d) 0
  let whole := takeWhole ⟨0, 0⟩ l.whole
  if l.fraction.isNone ∧ l.exponent.isNone ∧ whole.exponent = 0 then
    if !l.negative then some (.integer whole.significand)
    else if 0 < whole.significand ∧ whole.significand ≤ Nat.pow 2 63 then
      some (.integer (-(whole.significand : Int)))
    else some (.double true (← Binary64.ofNat? whole.significand))
  else
    let s := takeFraction whole (l.fraction.getD [])
    match l.exponent with
    | none => some (.double l.negative (← scale? (← Binary64.ofNat? s.significand) s.exponent))
    | some (down, digits) =>
      let e := ofDigits digits
      if exponentLimit ≤ e then
        if s.significand ≠ 0 ∧ !down then none else some (.double l.negative (← Binary64.ofNat? 0))
      else
        let exponent := if down then s.exponent - e else s.exponent + e
        some (.double l.negative (← scale? (← Binary64.ofNat? s.significand) exponent))

def digitValue (c : Char) : Nat := c.toNat - '0'.toNat

def leadingDigits (cs : List Char) : List Nat × List Char :=
  ((cs.takeWhile Char.isDigit).map digitValue, cs.dropWhile Char.isDigit)

/-- Reads a point and the digits after it, of which there is at least one. -/
def fraction? : List Char → Option (Option (List Nat) × List Char)
  | '.' :: rest =>
    let (digits, rest) := leadingDigits rest
    if digits.isEmpty then none else some (some digits, rest)
  | rest => some (none, rest)

/-- Reads an exponent: a mark, an optional sign and at least one digit. -/
def exponent? (cs : List Char) : Option (Option (Bool × List Nat) × List Char) :=
  let isMark := fun (c : Char) => c == 'e' || c == 'E'
  match cs with
  | [] => some (none, [])
  | c :: rest =>
    if isMark c then
      let (down, rest) := match rest with
        | '-' :: rest => (true, rest)
        | '+' :: rest => (false, rest)
        | _ => (false, rest)
      let (digits, rest) := leadingDigits rest
      if digits.isEmpty then none else some (some (down, digits), rest)
    else some (none, c :: rest)

/-- Reads the parts of a number; the whole text belongs to it. -/
def literal? (cs : List Char) : Option Literal := do
  let (negative, cs) := match cs with
    | '-' :: rest => (true, rest)
    | _ => (false, cs)
  let (whole, cs) := leadingDigits cs
  guard (!whole.isEmpty && (whole.length == 1 || whole.head? != some 0))
  let (fraction, cs) ← fraction? cs
  let (exponent, cs) ← exponent? cs
  guard cs.isEmpty
  some ⟨negative, whole, fraction, exponent⟩

def ofChars? (cs : List Char) : Option Number := literal? cs >>= ofLiteral?

/-! ## Writing -/

/-- Digits with a point among them, `before` digits standing in front of it. -/
def withPoint (digits : List Char) (before : Nat) : List Char :=
  let whole := digits.take before ++ List.replicate (before - digits.length) '0'
  let fraction := digits.drop before
  whole ++ ['.'] ++ (if fraction.isEmpty then ['0'] else fraction)

/-- The text of shortest digits, positional or with an exponent. -/
def layout (d : Binary64.Digits) : List Char :=
  if d.exponent < -5 ∨ 16 ≤ d.exponent then
    d.digits.take 1 ++ (if d.digits.length ≤ 1 then [] else '.' :: d.digits.drop 1) ++
      ['e', if d.exponent < 0 then '-' else '+'] ++ Nat.toDigits 10 d.exponent.natAbs
  else if d.exponent < 0 then
    ['0', '.'] ++ List.replicate (d.exponent.natAbs - 1) '0' ++ d.digits
  else withPoint d.digits (d.exponent.toNat + 1)

/-- The text of a double. -/
def doubleText (x : Binary64) : List Char :=
  if x.isZero then ['0', '.', '0'] else layout x.shortest

/-- The text of an integer. -/
def integerText (n : Int) : List Char :=
  (if n < 0 then ['-'] else []) ++ Nat.toDigits 10 n.natAbs

/-- The characters of a number. -/
def chars : Number → List Char
  | .integer n => integerText n
  | .double negative x => (if negative then ['-'] else []) ++ doubleText x

/-- The text of a number. -/
def toText (n : Number) : String := String.ofList n.chars

end Number

end RuleLang.Json
