import RuleLang.Json.Basic
import RuleLang.Json.Token

/-!
# Reading JSON

A value is read off the tokens of its text with a stack of frames: the arrays and objects that
are open, innermost first, each with what it holds so far. At most 127 of them may be open at a
time.

What is wrong with a text that is not JSON is not said; there is no value for it.
-/

set_option autoImplicit false

namespace RuleLang.Json

/-- An array or object that is open. What it holds comes last first; `name` is that of the member
whose value is being read. -/
inductive Frame where
  | array (items : List Json)
  | object (members : List (String × Json)) (name : String)

/-- How many arrays and objects may be open at a time. -/
def maxOpen : Nat := 127

/-- What the tokens read so far leave due. -/
inductive Due where
  /-- A value. -/
  | value (stack : List Frame)
  /-- The first item of an array, or its end. -/
  | itemOrEnd (stack : List Frame)
  /-- The first name in an object, or its end. -/
  | nameOrEnd (stack : List Frame)
  /-- Another name in an object. -/
  | name (members : List (String × Json)) (stack : List Frame)
  /-- The colon after a name. -/
  | colon (members : List (String × Json)) (name : String) (stack : List Frame)
  /-- The rest of the frames, a value having ended. -/
  | rest (value : Json) (stack : List Frame)

/-- Reads the token that begins a value. -/
def Due.begin? (stack : List Frame) : Token → Option Due
  | .null => some (.rest .null stack)
  | .bool b => some (.rest (.bool b) stack)
  | .number n => some (.rest (.number n) stack)
  | .string s => some (.rest (.string s) stack)
  | .openBracket => if stack.length < maxOpen then some (.itemOrEnd stack) else none
  | .openBrace => if stack.length < maxOpen then some (.nameOrEnd stack) else none
  | _ => none

def Due.step : Due → Token → Option Due
  | .value stack, token => begin? stack token
  | .itemOrEnd stack, .closeBracket => some (.rest (.array []) stack)
  | .itemOrEnd stack, token => begin? (.array [] :: stack) token
  | .nameOrEnd stack, .closeBrace => some (.rest (.object []) stack)
  | .nameOrEnd stack, .string key => some (.colon [] key stack)
  | .name members stack, .string key => some (.colon members key stack)
  | .colon members key stack, .colon => some (.value (.object members key :: stack))
  | .rest v (.array items :: stack), .comma => some (.value (.array (v :: items) :: stack))
  | .rest v (.array items :: stack), .closeBracket =>
    some (.rest (.array (v :: items).reverse) stack)
  | .rest v (.object members key :: stack), .comma => some (.name ((key, v) :: members) stack)
  | .rest v (.object members key :: stack), .closeBrace =>
    some (.rest (.object ((key, v) :: members).reverse) stack)
  | _, _ => none

/-- The value read, if nothing is due. -/
def Due.finish? : Due → Option Json
  | .rest v [] => some v
  | _ => none

def ofTokens? (tokens : List Token) : Option Json :=
  tokens.foldlM Due.step (.value []) >>= Due.finish?

def ofText? (s : String) : Option Json := Token.ofText? s >>= ofTokens?

end RuleLang.Json
