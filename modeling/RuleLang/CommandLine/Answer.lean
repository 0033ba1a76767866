import RuleLang.Operator.MatcherSize
import RuleLang.CommandLine.Arguments
import RuleLang.ActionBook.Registration
import RuleLang.Record.Arguments
import RuleLang.Report

/-!
# Answers of the command line

The answer to a command is a function of the command and of the contents of the files it names; a
file that cannot be read has none. An answer is a report on standard output, or one error on
standard error and the exit code 1. Arguments that ask for nothing have the exit code 2.
-/

set_option autoImplicit false

namespace RuleLang.CommandLine

/-- What a run of the program leaves behind. -/
structure Answer where
  exit : Nat
  stdout : String := ""
  stderr : String := ""
deriving DecidableEq, Repr

inductive Failure where
  | rule (error : RuleError)
  | argument (error : Record.ArgumentError)
  | unreadableData (file : String)
  | unreadableActions (file : String)
  | invalidActions (file : String)
deriving DecidableEq, Repr

def Failure.message : Failure → String
  | rule error => error.message
  | argument error => error.message
  | unreadableData file => "Cannot read data file " ++ file
  | unreadableActions file => "Cannot read actions file " ++ file
  | invalidActions file => "Invalid actions file " ++ file

abbrev Files := String → Option String

/-- An error as a failure of a certain kind. -/
def failing {ε α : Type} (failure : ε → Failure) : Except ε α → Except Failure α
  | .ok a => .ok a
  | .error e => .error (failure e)

/-- What is there, or a failure. -/
def orFail {α : Type} (failure : Failure) : Option α → Except Failure α
  | some a => .ok a
  | none => .error failure

/-- The record of a data file, if one is given, with the fields of arguments added. -/
def loadRecord (files : Files) (fields : List String) (data : Option String) :
    Except Failure Record := do
  let record ← match data with
    | none => .ok .empty
    | some file => do
      let text ← orFail (.unreadableData file) (files file)
      failing (fun cause => .rule (.invalidRecord cause)) (Record.ofText text)
  failing .argument (record.addArguments fields)

def report (files : Files) : Command → Except Failure String
  | .eval source fields data raw => do
    let record ← loadRecord files fields data
    let (result, book) := RuleBook.add {} (.name source) source
    failing .rule result
    let value ← failing .rule (book.execute (.name source) record)
    .ok (Report.result source value raw)
  | .vars source => do
    let rule ← failing .rule (RuleBook.compile {} source).1
    .ok (Report.fields rule.fields)
  | .check source => do
    let rule ← failing .rule (RuleBook.compile {} source).1
    .ok (Report.compiled rule)
  | .actions file fields data => do
    let text ← orFail (.unreadableActions file) (files file)
    let registrations ← orFail (.invalidActions file) (Registration.listOfText? text)
    let actions ← failing .rule (ActionBook.addAll {} registrations)
    let record ← loadRecord files fields data
    .ok (Report.due (← failing .rule (actions.evaluateAll record)))

def usage : String :=
  "Usage: [-v] eval RULE [NAME=VALUE...] [-d FILE] [-r] | vars RULE | check RULE | " ++
    "actions FILE [NAME=VALUE...] [-d FILE]\n"

def answer (files : Files) : Option Command → Answer
  | none => { exit := 2, stderr := usage }
  | some command =>
    match report files command with
    | .ok text => { exit := 0, stdout := text }
    | .error failure => { exit := 1, stderr := "Error: " ++ failure.message ++ "\n" }

end RuleLang.CommandLine
