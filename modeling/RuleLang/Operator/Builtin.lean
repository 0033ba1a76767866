import RuleLang.Operator
import RuleLang.Decimal.Arithmetic

/-!
# The built-in operators

Arithmetic needs two numbers. A comparison is numeric where both operands have a numeric view and
by text otherwise, so a number against a word is compared as text; `null` equals only itself and
cannot be ordered. `contains` asks a list for an item and anything else for a piece of its text.
`and` and `or` look at what counts as true, and never fail.
-/

set_option autoImplicit false

namespace RuleLang.Operator

open Value

/-! ## Arithmetic -/

def number (v : Value) : Except OperatorError Decimal :=
  match v.asNumber? with
  | some d => .ok d
  | none => .error (.notANumber v.describe)

/-- The result of an operation on decimals: without one, the operation overflows. -/
def orOverflow : Option Decimal → Except OperatorError Value
  | some d => .ok (.number d)
  | none => .error .overflow

/-- An operation on decimals as one on values: both operands have to be numbers. -/
def arithmetic (operation : Decimal → Decimal → Except OperatorError Value) (l r : Value) :
    Except OperatorError Value := do
  operation (← number l) (← number r)

def add : Value → Value → Except OperatorError Value := arithmetic fun l r => orOverflow (l.add? r)

def subtract : Value → Value → Except OperatorError Value :=
  arithmetic fun l r => orOverflow (l.sub? r)

def multiply : Value → Value → Except OperatorError Value :=
  arithmetic fun l r => orOverflow (l.mul? r)

def divide : Value → Value → Except OperatorError Value :=
  arithmetic fun l r => if r.isZero then .error .divisionByZero else orOverflow (l.div? r)

/-! ## Comparison -/

/-- Why two values have no order. -/
inductive Unordered where
  /-- One of them is `null`. -/
  | undefined
  /-- Neither is, but they are not both numbers, and one has no text; the phrases describe them. -/
  | incomparable (left right : String)
deriving DecidableEq, Repr

/-- The order of two values: of their numbers if both have one, of their texts otherwise. -/
def orderOrReason (l r : Value) : Except Unordered Ordering :=
  match l.asNumber?, r.asNumber? with
  | some l, some r => .ok (l.compare r)
  | _, _ =>
    match l.asText?, r.asText? with
    | some l, some r => .ok (compare l r)
    | _, _ =>
      if l.isNull || r.isNull then .error .undefined
      else .error (.incomparable l.describe r.describe)

/-- The order of two values as operators use it. Every value but `null` has a text, so there is but
one reason for there being no order. -/
def order (l r : Value) : Except OperatorError Ordering :=
  (orderOrReason l r).mapError fun _ => .undefined

def same (l r : Value) : Bool :=
  match l, r with
  | .null, .null => true
  | .null, _ | _, .null => false
  | _, _ =>
    match order l r with
    | .ok .eq => true
    | _ => false

def equal (l r : Value) : Except OperatorError Value := .ok (.boolean (same l r))

def notEqual (l r : Value) : Except OperatorError Value := .ok (.boolean (!same l r))

def greaterThan (l r : Value) : Except OperatorError Value :=
  (order l r).map fun o => .boolean (o == .gt)

def lessThan (l r : Value) : Except OperatorError Value :=
  (order l r).map fun o => .boolean (o == .lt)

/-! ## Containment -/

/-- Whether a text occurs in another one. -/
def occursIn (piece : List Char) : List Char → Bool
  | [] => piece.isEmpty
  | c :: cs => piece.isPrefixOf (c :: cs) || occursIn piece cs

def text (v : Value) : Except OperatorError String :=
  match v.asText? with
  | some s => .ok s
  | none => .error .undefined

def contains (l r : Value) : Except OperatorError Value := do
  let piece ← text r
  match l with
  | .list items => .ok (.boolean (items.contains piece))
  | _ => .ok (.boolean (occursIn piece.toList (← text l).toList))

/-! ## Connectives -/

def both (l r : Value) : Except OperatorError Value := .ok (.boolean (l.truthy && r.truthy))

def either (l r : Value) : Except OperatorError Value := .ok (.boolean (l.truthy || r.truthy))

/-! ## The default table -/

/-- The built-in operators under the symbols they have unless a table says otherwise. -/
def builtins : List (String × Operator) :=
  [("*", ⟨-1, multiply⟩),
   ("/", ⟨-1, divide⟩),
   ("+", ⟨0, add⟩),
   ("-", ⟨0, subtract⟩),
   ("=", ⟨1, equal⟩),
   ("!=", ⟨1, notEqual⟩),
   (">", ⟨1, greaterThan⟩),
   ("<", ⟨1, lessThan⟩),
   (" contains ", ⟨1, contains⟩),
   (" and ", ⟨2, both⟩),
   (" or ", ⟨2, either⟩)]

end RuleLang.Operator
