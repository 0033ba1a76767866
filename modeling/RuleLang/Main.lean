import RuleLang.CommandLine.Answer

/-!
# The program

Reads the files that a command names, prints its answer and exits with its code. All that is
decided is decided in the modules below this one.
-/

set_option autoImplicit false

namespace RuleLang

/-- The contents of a file, if it can be read as text. -/
def readText? (file : String) : IO (Option String) := do
  try
    return some (← IO.FS.readFile file)
  catch _ =>
    return none

def readTexts (files : List String) : IO (List (String × Option String)) :=
  files.mapM fun file => return (file, ← readText? file)

end RuleLang

open RuleLang in
def main (arguments : List String) : IO UInt32 := do
  let command := Command.ofArguments? {} arguments
  let texts ← readTexts ((command.map Command.files).getD [])
  let answer := CommandLine.answer (fun file => (texts.lookup file).join) command
  IO.print answer.stdout
  IO.eprint answer.stderr
  return answer.exit.toUInt32
