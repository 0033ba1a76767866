/-!
# Command-line arguments

What can be asked for: the result of a rule, its fields, a check of it, or the actions that are
due. Options may stand before, between and after the other arguments, short ones may be joined,
and after a double dash everything is an ordinary argument. An argument that begins with a dash
is never taken for a value, but for a dash by itself.

Whether detailed logging is asked for changes nothing about an answer, so it is read and not kept.
-/

set_option autoImplicit false

namespace RuleLang

inductive Command where
  /-- The result of a rule on the fields given and those of a data file. -/
  | eval (rule : String) (fields : List String) (data : Option String) (raw : Bool)
  /-- The fields of a rule. -/
  | vars (rule : String)
  /-- Whether a rule is one, and its prefix form. -/
  | check (rule : String)
  /-- The actions of a file that are due. -/
  | actions (file : String) (fields : List String) (data : Option String)
deriving DecidableEq, Repr

namespace Command

/-- Which options a command has, logging apart. -/
structure Options where
  data : Bool
  raw : Bool

/-- The arguments read so far, ordinary ones last first. -/
structure Given where
  ordinary : List String := []
  data : Option String := none
  raw : Bool := false
  verbose : Bool := false

/-- How an argument is meant. -/
inductive Form where
  | doubleDash
  | long (name : String) (value : Option String)
  | short (letters : List Char)
  | ordinary

def Form.of (argument : String) : Form :=
  match argument.toList with
  | ['-', '-'] => doubleDash
  | '-' :: '-' :: option =>
    let name := String.ofList (option.takeWhile (· != '='))
    match option.dropWhile (· != '=') with
    | [] => long name none
    | _ :: value => long name (some (String.ofList value))
  | '-' :: letter :: letters => short (letter :: letters)
  | _ => ordinary

/-- An option that takes no value may be given once. -/
def Given.setRaw? (options : Options) (given : Given) : Option Given :=
  if options.raw && !given.raw then some { given with raw := true } else none

def Given.setVerbose? (given : Given) : Option Given :=
  if given.verbose then none else some { given with verbose := true }

/-- The data file may be given once, and has a name. -/
def Given.setData? (options : Options) (given : Given) (file : String) : Option Given :=
  if options.data && given.data.isNone && !file.isEmpty then some { given with data := some file }
  else none

/-- Reads joined letters; the second component tells that the value of the last one is due. -/
def readLetters (options : Options) (given : Given) : List Char → Option (Given × Bool)
  | [] => some (given, false)
  | 'v' :: letters => do readLetters options (← given.setVerbose?) letters
  | 'r' :: letters => do readLetters options (← given.setRaw? options) letters
  | 'd' :: [] => if options.data then some (given, true) else none
  | 'd' :: '=' :: file => do some (← given.setData? options (String.ofList file), false)
  | 'd' :: file => do some (← given.setData? options (String.ofList file), false)
  | _ => none

/-- Reads the arguments of a command; `valueDue` tells that the data file comes next. -/
def read (options : Options) (given : Given) (valueDue : Bool) : List String → Option Given
  | [] => if valueDue then none else some given
  | argument :: rest =>
    if valueDue then
      match Form.of argument with
      | .ordinary => do read options (← given.setData? options argument) false rest
      | _ => none
    else
      match Form.of argument with
      | .doubleDash => some { given with ordinary := rest.reverse ++ given.ordinary }
      | .long "verbose" none => do read options (← given.setVerbose?) false rest
      | .long "raw" none => do read options (← given.setRaw? options) false rest
      | .long "data" (some file) => do read options (← given.setData? options file) false rest
      | .long "data" none => if options.data then read options given true rest else none
      | .long _ _ => none
      | .short letters =>
        match readLetters options given letters with
        | some (given, valueDue) => read options given valueDue rest
        | none => none
      | .ordinary => read options { given with ordinary := argument :: given.ordinary } false rest

/-- The command of a name with its arguments. -/
def ofName? (name : String) (arguments : List String) : Option Command := do
  match name with
  | "eval" =>
    let given ← read ⟨true, true⟩ {} false arguments
    match given.ordinary.reverse with
    | rule :: fields => some (.eval rule fields given.data given.raw)
    | [] => none
  | "vars" =>
    match (← read ⟨false, false⟩ {} false arguments).ordinary with
    | [rule] => some (.vars rule)
    | _ => none
  | "check" =>
    match (← read ⟨false, false⟩ {} false arguments).ordinary with
    | [rule] => some (.check rule)
    | _ => none
  | "actions" =>
    let given ← read ⟨true, false⟩ {} false arguments
    match given.ordinary.reverse with
    | file :: fields => if file.isEmpty then none else some (.actions file fields given.data)
    | [] => none
  | _ => none

/-- The command that arguments ask for. Before its name only logging can be asked for. -/
def ofArguments? (given : Given) : List String → Option Command
  | [] => none
  | argument :: rest =>
    match Form.of argument with
    | .ordinary => ofName? argument rest
    | .long "verbose" none => do ofArguments? (← given.setVerbose?) rest
    | .short letters =>
      match readLetters ⟨false, false⟩ given letters with
      | some (given, false) => ofArguments? given rest
      | _ => none
    | _ => none

def files : Command → List String
  | eval _ _ data _ => data.toList
  | vars _ | check _ => []
  | actions file _ data => file :: data.toList

end Command

end RuleLang
