import RuleLang.Text.Combining
import RuleLang.Text.Unprintable

/-!
# Quoted listings

A text in double quotes, written so that every character of it can be told: the quote and the
backslash are escaped, the common control characters have their letter, and a character that
would not show, or that would combine with its neighbour, is given by its number in braces.
-/

set_option autoImplicit false

namespace RuleLang.Text

def hexDigits (n : Nat) : List Char := Nat.toDigits 16 n

def quotedChar (c : Char) : List Char :=
  if c = '\x00' then ['\\', '0']
  else if c = '\t' then ['\\', 't']
  else if c = '\r' then ['\\', 'r']
  else if c = '\n' then ['\\', 'n']
  else if c = '\\' then ['\\', '\\']
  else if c = '"' then ['\\', '"']
  else if combining.has c || unprintable.has c then
    ['\\', 'u', '\x7b'] ++ hexDigits c.toNat ++ ['\x7d']
  else [c]

/-- A text as a quoted listing shows it. -/
def quoted (s : String) : String :=
  String.ofList (['"'] ++ s.toList.flatMap quotedChar ++ ['"'])

end RuleLang.Text
