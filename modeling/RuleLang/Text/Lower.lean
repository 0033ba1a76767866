import RuleLang.Text.Lower.Table
import RuleLang.Text.Lower.Context

/-!
# Lower case

The lower-case form of a text, over all of Unicode: every letter by itself, with two exceptions.
The dotted capital I becomes two characters, and a capital sigma becomes the final form `ς` where
it ends a word — where a letter with case comes before it and none comes after it, what does not
interrupt a word being skipped on both sides.

Operators are looked up by the lower-case form of their symbol, so two symbols name the same
operator exactly when their lower-case forms agree.
-/

set_option autoImplicit false

namespace RuleLang.Text

/-- The lower-case form of a letter whose form is one character; the dotted capital I stays. -/
def lowerChar (c : Char) : Char :=
  if c.toNat < 128 then c.toLower else (formIn lowerRuns c).getD c

/-- The lower-case form of a text, `before` being what precedes it, last character first. -/
def lowerFrom (before : List Char) : List Char → List Char
  | [] => []
  | c :: rest =>
    (if c = 'Σ' then
      [if startsCased before && !startsCased rest then 'ς' else 'σ']
    else if c = 'İ' then ['i', '\u0307']
    else [lowerChar c]) ++ lowerFrom (c :: before) rest

def lower (s : String) : String := String.ofList (lowerFrom [] s.toList)

end RuleLang.Text
