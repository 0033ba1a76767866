import RuleLang.Part
import RuleLang.Text.Blank

/-!
# Showing parts

A part is shown as it is written, but for an operator, which is shown without the blanks that
belong to its symbol; a sequence is shown with one space between parts.
-/

set_option autoImplicit false

namespace RuleLang.Part

/-- How a part is shown. -/
def display : Part → String
  | operator symbol => Text.trim symbol
  | part => String.ofList part.source

def displayAll (parts : List Part) : String := " ".intercalate (parts.map display)

end RuleLang.Part
