import RuleLang.Record

/-!
# Fields as arguments

A field can be given as one argument, `name=value`. The name is what stands before the first
equals sign, without the blanks around it; there has to be one. The value is `true` or `false`, or
a number if the text is one by the same rule that reads numbers in texts, or else the text as it
stands, blanks included.
-/

set_option autoImplicit false

namespace RuleLang.Record

inductive ArgumentError where
  | withoutValue (argument : String)
  | withoutName (argument : String)
deriving DecidableEq, Repr

def ArgumentError.message : ArgumentError → String
  | withoutValue argument => "Invalid field '" ++ argument ++ "': expected name=value"
  | withoutName argument => "Invalid field '" ++ argument ++ "': missing name"

/-- The value that a text after the equals sign stands for. -/
def argumentValue (raw : String) : Value :=
  if raw = "true" then .boolean true
  else if raw = "false" then .boolean false
  else match Decimal.ofText? (Text.trim raw) with
    | some d => .number d
    | none => .text raw

def readArgument (argument : String) : Except ArgumentError (String × Value) :=
  match argument.toList.dropWhile (· != '=') with
  | [] => .error (.withoutValue argument)
  | _ :: raw =>
    let name := Text.trimmed (argument.toList.takeWhile (· != '='))
    if name.isEmpty then .error (.withoutName argument)
    else .ok (String.ofList name, argumentValue (String.ofList raw))

/-- A record with the fields of arguments added, later ones replacing earlier ones. -/
def addArguments (record : Record) : List String → Except ArgumentError Record
  | [] => .ok record
  | argument :: rest => do
    let (name, value) ← readArgument argument
    addArguments (record.insert name value) rest

end RuleLang.Record
