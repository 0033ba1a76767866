import RuleLang.Value
import RuleLang.Decimal.Binary64
import RuleLang.Json.Basic

/-!
# Values as JSON

The JSON value of what a rule computed. A whole number that a signed 64-bit integer can hold is
written as one; any other number becomes a double.
-/

set_option autoImplicit false

namespace RuleLang

/-- The JSON value of a number, by value. A number that is no double is written as its text. -/
def Decimal.toJson (d : Decimal) : Json :=
  let d := d.normalize
  if d.scale = 0 ∧ -(Int.pow 2 63) ≤ d.signed ∧ d.signed < Int.pow 2 63 then
    .number (.integer d.signed)
  else match d.toBinary64? with
    | some x => .number (.double d.negative x)
    | none => .string d.toText

def Value.toJson : Value → Json
  | number d => d.toJson
  | text s => .string s
  | boolean b => .bool b
  | list items => .array (items.map .string)
  | null => .null

end RuleLang
