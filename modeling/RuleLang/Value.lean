import RuleLang.Decimal.Written
import RuleLang.Decimal.Reader
import RuleLang.Text.Blank

/-!
# Values

What a field of a record holds and what a rule computes. Operators do not look at the kind of a
value: they ask for its numeric view or its text view and decide from there, so that a number and
the text of that number can be used alike.
-/

set_option autoImplicit false

namespace RuleLang

/-- An operand of a rule, or its result. A field that a record does not have is `null`. -/
inductive Value where
  | number (d : Decimal)
  | text (s : String)
  | boolean (b : Bool)
  | list (items : List String)
  | null
deriving DecidableEq, Repr, Inhabited

namespace Value

def boolText (b : Bool) : String := if b then "true" else "false"

/-- The numeric view: that of a text is the number it writes, blanks around it apart. -/
def asNumber? : Value → Option Decimal
  | number d => some d
  | text s => Decimal.ofTextOrScientific? (Text.trim s)
  | _ => none

theorem asNumber?_text (s : String) : (text s).asNumber? = Decimal.ofText? (Text.trim s) :=
  Decimal.ofTextOrScientific?_eq _

/-- The text view: numbers by value, lists joined by commas; `null` has none. -/
def asText? : Value → Option String
  | number d => some d.valueText
  | text s => some s
  | boolean b => some (boolText b)
  | list items => some (",".intercalate items)
  | null => none

/-- What counts as true: everything but `false`, zero, the empty text, the empty list and `null`. -/
def truthy : Value → Bool
  | number d => !d.isZero
  | text s => !s.isEmpty
  | boolean b => b
  | list items => !items.isEmpty
  | null => false

def isNull : Value → Bool
  | null => true
  | _ => false

/-- The phrase that an error message uses for a value. -/
def describe : Value → String
  | number d => "number " ++ d.valueText
  | text s => "text value \"" ++ s ++ "\""
  | boolean b => "boolean " ++ boolText b
  | list items => "list of " ++ toString items.length ++ " item(s)"
  | null => "undefined value"

def display : Value → String
  | number d => d.valueText
  | text s => s
  | boolean b => boolText b
  | list items => "[" ++ ", ".intercalate items ++ "]"
  | null => "null"

end Value

end RuleLang
