import RuleLang.Report.Box
import RuleLang.ActionBook

/-!
# Reports

What the command line prints for an answer: a table where there is something to show in one, and
a sentence where there is not.
-/

set_option autoImplicit false

namespace RuleLang.Report

/-- A list in one cell; an empty one shows as a dash. -/
def listed (texts : List String) : String :=
  if texts.isEmpty then "-" else ", ".intercalate texts

/-- The result of a rule, in a table or by itself. -/
def result (source : String) (value : Value) (raw : Bool) : String :=
  if raw then value.display ++ "\n"
  else Box.toText ⟨some ["Rule", "Result"], [[source, value.display]]⟩ ++ "\n"

def fields (names : List String) : String :=
  if names.isEmpty then "No fields referenced\n"
  else Box.toText ⟨some ["Field"], names.map ([·])⟩ ++ "\n"

def compiled (rule : Rule) : String :=
  "Rule is valid\n" ++
    Box.toText ⟨none,
      [["Rule", rule.source], ["Prefix", rule.display], ["Fields", listed rule.fields]]⟩ ++ "\n"

def due (actions : List (RuleName × List String)) : String :=
  if actions.isEmpty then "No actions registered\n"
  else
    Box.toText ⟨some ["Input", "Actions"],
      actions.map fun (input, due) => [input.display, listed due]⟩ ++ "\n"

end RuleLang.Report
