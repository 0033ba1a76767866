import RuleLang.Json.Number

/-!
# JSON

The values of a JSON text, and their compact text. An object keeps its members in the order and
with the repetitions they were written with; what a repeated name means is for the reader of the
object to say.
-/

set_option autoImplicit false

namespace RuleLang

inductive Json where
  | null
  | bool (b : Bool)
  | number (n : Json.Number)
  | string (s : String)
  | array (items : List Json)
  | object (members : List (String × Json))
deriving Inhabited

namespace Json

/-- The noun that a message uses for a value. -/
def kind : Json → String
  | null => "null"
  | bool _ => "a boolean"
  | number _ => "a number"
  | string _ => "a string"
  | array _ => "an array"
  | object _ => "an object"

/-! ## Writing -/

/-- A character inside the quotes: the two delimiters and the control characters are escaped. -/
def escapedChar (c : Char) : List Char :=
  if c = '"' then ['\\', '"']
  else if c = '\\' then ['\\', '\\']
  else if c = '\x08' then ['\\', 'b']
  else if c = '\x0c' then ['\\', 'f']
  else if c = '\n' then ['\\', 'n']
  else if c = '\r' then ['\\', 'r']
  else if c = '\t' then ['\\', 't']
  else if c.toNat < 0x20 then
    ['\\', 'u', '0', '0', Nat.digitChar (c.toNat / 16), Nat.digitChar (c.toNat % 16)]
  else [c]

def quotedText (s : String) : String :=
  String.ofList (['"'] ++ s.toList.flatMap escapedChar ++ ['"'])

mutual

def toText : Json → String
  | null => "null"
  | bool b => if b then "true" else "false"
  | number n => n.toText
  | string s => quotedText s
  | array items => "[" ++ itemsText items ++ "]"
  | object members => "\x7b" ++ membersText members ++ "\x7d"

def itemsText : List Json → String
  | [] => ""
  | [item] => toText item
  | item :: rest => toText item ++ "," ++ itemsText rest

def membersText : List (String × Json) → String
  | [] => ""
  | [(name, value)] => quotedText name ++ ":" ++ toText value
  | (name, value) :: rest => quotedText name ++ ":" ++ toText value ++ "," ++ membersText rest

end

end Json

end RuleLang
