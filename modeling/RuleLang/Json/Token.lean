import RuleLang.Json.Number

/-!
# Tokens of JSON

A JSON text is first cut into tokens, character by character. Between tokens stand blanks; a run
of other characters is a word, which has to be a literal or a number; a quote opens a string,
which ends at the next quote that is not escaped. Inside a string a control character is an
error, and so is half a surrogate pair: a string holds characters only.
-/

set_option autoImplicit false

namespace RuleLang.Json

inductive Token where
  | openBrace
  | closeBrace
  | openBracket
  | closeBracket
  | colon
  | comma
  | null
  | bool (b : Bool)
  | number (n : Number)
  | string (s : String)
deriving DecidableEq, Repr

namespace Token

def punctuation? (c : Char) : Option Token :=
  if c = '\x7b' then some openBrace
  else if c = '\x7d' then some closeBrace
  else if c = '[' then some openBracket
  else if c = ']' then some closeBracket
  else if c = ':' then some colon
  else if c = ',' then some comma
  else none

def word? (cs : List Char) : Option Token :=
  if cs = "null".toList then some null
  else if cs = "true".toList then some (bool true)
  else if cs = "false".toList then some (bool false)
  else (Number.ofChars? cs).map number

/-- The blanks of JSON are four. -/
def isBlank (c : Char) : Bool := c == ' ' || c == '\t' || c == '\n' || c == '\r'

/-- The character a one-letter escape stands for. -/
def escape? (c : Char) : Option Char :=
  if c = '"' then some '"'
  else if c = '\\' then some '\\'
  else if c = '/' then some '/'
  else if c = 'b' then some '\x08'
  else if c = 'f' then some '\x0c'
  else if c = 'n' then some '\n'
  else if c = 'r' then some '\r'
  else if c = 't' then some '\t'
  else none

def hexDigit? (c : Char) : Option Nat :=
  if '0' ≤ c ∧ c ≤ '9' then some (c.toNat - '0'.toNat)
  else if 'a' ≤ c ∧ c ≤ 'f' then some (c.toNat - 'a'.toNat + 10)
  else if 'A' ≤ c ∧ c ≤ 'F' then some (c.toNat - 'A'.toNat + 10)
  else none

/-- Where in a text the cut stands. Texts are collected with the last character first, and `high`
is the first half of a surrogate pair whose second half is due. -/
inductive Place where
  | between
  | word (chars : List Char)
  | string (chars : List Char)
  | escape (chars : List Char)
  | code (chars : List Char) (high : Option Nat) (digits : List Nat)
  | pairEscape (chars : List Char) (high : Nat)
  | pairCode (chars : List Char) (high : Nat)

/-- The tokens cut so far, the last one first, and the place behind them. -/
structure Cut where
  tokens : List Token
  place : Place

/-- Takes in a character that stands between tokens. -/
def Cut.between (tokens : List Token) (c : Char) : Cut :=
  if isBlank c then ⟨tokens, .between⟩
  else if c = '"' then ⟨tokens, .string []⟩
  else match punctuation? c with
    | some token => ⟨token :: tokens, .between⟩
    | none => ⟨tokens, .word [c]⟩

def endWord? (tokens : List Token) (chars : List Char) : Option (List Token) :=
  (word? chars.reverse).map (· :: tokens)

/-- Takes in the four digits of a numeric escape. A first half of a surrogate pair waits for the
second, a second half has to follow a first. -/
def endCode? (chars : List Char) (high : Option Nat) (code : Nat) : Option Place :=
  let isHigh := 0xD800 ≤ code ∧ code < 0xDC00
  let isLow := 0xDC00 ≤ code ∧ code < 0xE000
  match high with
  | none =>
    if isHigh then some (.pairEscape chars code)
    else if isLow then none
    else some (.string (Char.ofNat code :: chars))
  | some high =>
    if isLow then
      some (.string (Char.ofNat (0x10000 + (high - 0xD800) * 0x400 + (code - 0xDC00)) :: chars))
    else none

def Cut.step (cut : Cut) (c : Char) : Option Cut :=
  match cut.place with
  | .between => some (.between cut.tokens c)
  | .word chars =>
    if isBlank c || c == '"' || (punctuation? c).isSome then
      (endWord? cut.tokens chars).map (Cut.between · c)
    else some ⟨cut.tokens, .word (c :: chars)⟩
  | .string chars =>
    if c = '"' then some ⟨.string (String.ofList chars.reverse) :: cut.tokens, .between⟩
    else if c = '\\' then some ⟨cut.tokens, .escape chars⟩
    else if c.toNat < 0x20 then none
    else some ⟨cut.tokens, .string (c :: chars)⟩
  | .escape chars =>
    if c = 'u' then some ⟨cut.tokens, .code chars none []⟩
    else (escape? c).map fun e => ⟨cut.tokens, .string (e :: chars)⟩
  | .code chars high digits => do
    let digits := digits ++ [← hexDigit? c]
    if digits.length < 4 then some ⟨cut.tokens, .code chars high digits⟩
    else
      let place ← endCode? chars high (digits.foldl (fun n d => 16 * n + d) 0)
      some ⟨cut.tokens, place⟩
  | .pairEscape chars high =>
    if c = '\\' then some ⟨cut.tokens, .pairCode chars high⟩ else none
  | .pairCode chars high =>
    if c = 'u' then some ⟨cut.tokens, .code chars (some high) []⟩ else none

/-- Ends the text: outside a string only. -/
def Cut.finish? (cut : Cut) : Option (List Token) :=
  match cut.place with
  | .between => some cut.tokens.reverse
  | .word chars => (endWord? cut.tokens chars).map List.reverse
  | _ => none

def ofText? (s : String) : Option (List Token) :=
  s.toList.foldlM Cut.step ⟨[], .between⟩ >>= Cut.finish?

end Token

end RuleLang.Json
