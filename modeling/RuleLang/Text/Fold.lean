import RuleLang.Text.Lower.Table
import RuleLang.Text.Lower

/-!
# Letters that differ in case only

Operator symbols are recognised in a rule without regard to case. Two characters count as the
same there when they have the same `fold`. The fold of a letter is its lower-case form but for
the letters below, where several lower-case letters share a capital (`s` and `ſ`, `σ` and `ς`) or
where the capitals are the common form (Cherokee).

Recognising a symbol and looking it up are two different notions of case: `ſ` is recognised as
`s`, but its lower-case form is `ſ` itself.
-/

set_option autoImplicit false

namespace RuleLang.Text

/-- The letters whose common form is not their lower-case form. -/
def foldRuns : List CaseRun :=
  [⟨0xB5, 0xB5, 1, 0x3BC⟩, ⟨0x17F, 0x17F, 1, 0x73⟩, ⟨0x345, 0x345, 1, 0x3B9⟩,
   ⟨0x3C2, 0x3C2, 1, 0x3C3⟩, ⟨0x3D0, 0x3D0, 1, 0x3B2⟩, ⟨0x3D1, 0x3D1, 1, 0x3B8⟩,
   ⟨0x3D5, 0x3D5, 1, 0x3C6⟩, ⟨0x3D6, 0x3D6, 1, 0x3C0⟩, ⟨0x3F0, 0x3F0, 1, 0x3BA⟩,
   ⟨0x3F1, 0x3F1, 1, 0x3C1⟩, ⟨0x3F5, 0x3F5, 1, 0x3B5⟩, ⟨0x13A0, 0x13F5, 1, 0x13A0⟩,
   ⟨0x13F8, 0x13FD, 1, 0x13F0⟩, ⟨0x1C80, 0x1C80, 1, 0x432⟩, ⟨0x1C81, 0x1C81, 1, 0x434⟩,
   ⟨0x1C82, 0x1C82, 1, 0x43E⟩, ⟨0x1C83, 0x1C84, 1, 0x441⟩, ⟨0x1C85, 0x1C85, 1, 0x442⟩,
   ⟨0x1C86, 0x1C86, 1, 0x44A⟩, ⟨0x1C87, 0x1C87, 1, 0x463⟩, ⟨0x1C88, 0x1C88, 1, 0xA64B⟩,
   ⟨0x1E9B, 0x1E9B, 1, 0x1E61⟩, ⟨0x1FBE, 0x1FBE, 1, 0x3B9⟩, ⟨0x1FD3, 0x1FD3, 1, 0x390⟩,
   ⟨0x1FE3, 0x1FE3, 1, 0x3B0⟩, ⟨0xAB70, 0xABBF, 1, 0x13A0⟩, ⟨0xFB05, 0xFB05, 1, 0xFB06⟩]

/-- The form shared by the letters that differ in case only. -/
def fold (c : Char) : Char :=
  if c.toNat < 128 then c.toLower else (formIn foldRuns c).getD (lowerChar c)

end RuleLang.Text
