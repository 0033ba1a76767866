import RuleLang.SortedMap
import RuleLang.Value
import RuleLang.Json.Reader

/-!
# Records

What a rule is evaluated against: the values of named fields. A record is read from a JSON object,
whose members have to be flat: scalars, or arrays of scalars, whose items are kept as texts. The
members are looked at in the order of their names, and the first that cannot be a field value is
the error; of several members of one name the last counts.
-/

set_option autoImplicit false

namespace RuleLang

/-- The values of the fields that are present. -/
abbrev Record := SortedMap String Value

namespace Record

/-- The value of a field; a field that is missing is `null`. -/
def field (record : Record) (name : String) : Value := (record.get? name).getD .null

inductive Error where
  | notJson
  | notAnObject (kind : String)
  | nestedObject (field : String)
  | nestedItem (field kind : String)
  | unrepresentable (field number : String)
deriving DecidableEq, Repr

def Error.message : Error → String
  | notJson => "Invalid JSON"
  | notAnObject kind => "Expected a JSON object, got " ++ kind
  | nestedObject field => "Field '" ++ field ++ "' holds a nested object"
  | nestedItem field kind => "Field '" ++ field ++ "' holds a list containing " ++ kind
  | unrepresentable field number =>
    "Field '" ++ field ++ "' holds an unrepresentable number " ++ number

/-- The decimal of a JSON number is the one its text writes. -/
def readNumber (field : String) (n : Json.Number) : Except Error Decimal :=
  match Decimal.ofTextOrScientific? n.toText with
  | some d => .ok d
  | none => .error (.unrepresentable field n.toText)

def readItem (field : String) : Json → Except Error String
  | .string s => .ok s
  | .bool b => .ok (Value.boolText b)
  | .number n => (readNumber field n).map Decimal.valueText
  | item => .error (.nestedItem field item.kind)

def readField (field : String) : Json → Except Error Value
  | .null => .ok .null
  | .bool b => .ok (.boolean b)
  | .number n => (readNumber field n).map .number
  | .string s => .ok (.text s)
  | .array items => (items.mapM (readItem field)).map .list
  | .object _ => .error (.nestedObject field)

def ofJson : Json → Except Error Record
  | .object members => do
    let fields ← (SortedMap.ofList members).entries.mapM fun member =>
      (readField member.1 member.2).map fun value => (member.1, value)
    .ok (SortedMap.ofList fields)
  | value => .error (.notAnObject value.kind)

def ofText (s : String) : Except Error Record :=
  match Json.ofText? s with
  | some value => ofJson value
  | none => .error .notJson

end Record

end RuleLang
