/-!
# Sets of characters

A class of characters — the blanks, the letters that have case, the marks that add no width — is
written down as inclusive ranges of code points. The tables beside this file are the classes of
the Unicode character database, version 17.
-/

set_option autoImplicit false

namespace RuleLang.Text

/-- A set of characters, given by inclusive ranges of code points. -/
abbrev CharSet := List (Nat × Nat)

/-- A character is in a set when one of the ranges holds its code point. -/
def CharSet.has (set : CharSet) (c : Char) : Bool :=
  set.any fun range => range.1 ≤ c.toNat && c.toNat ≤ range.2

theorem CharSet.has_iff {set : CharSet} {c : Char} :
    set.has c = true ↔ ∃ range ∈ set, range.1 ≤ c.toNat ∧ c.toNat ≤ range.2 := by
  simp [CharSet.has]

end RuleLang.Text
