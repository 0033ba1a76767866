import RuleLang.ActionBook
import RuleLang.Json.Reader

/-!
# Registrations

A file of actions is a JSON array of registrations. One is an object with the members `input`,
`action` and `rule`, all texts and each there once, whatever else it may hold, or the three texts
in an array.
-/

set_option autoImplicit false

namespace RuleLang

/-- An action of an input with the text of the rule that guards it. -/
structure Registration where
  input : String
  action : String
  rule : String
deriving DecidableEq, Repr

namespace Registration

/-- The text of a member that is there exactly once. -/
def member? (members : List (String × Json)) (name : String) : Option String :=
  match members.filter (·.1 == name) with
  | [(_, .string s)] => some s
  | _ => none

def ofJson? : Json → Option Registration
  | .object members => do
    some ⟨← member? members "input", ← member? members "action", ← member? members "rule"⟩
  | .array [.string input, .string action, .string rule] => some ⟨input, action, rule⟩
  | _ => none

def listOfText? (text : String) : Option (List Registration) :=
  match Json.ofText? text with
  | some (.array items) => items.mapM ofJson?
  | _ => none

end Registration

/-- Adds the actions of registrations, one after the other. -/
def ActionBook.addAll [MatcherBuilder] (actions : ActionBook) :
    List Registration → Except RuleError ActionBook
  | [] => .ok actions
  | r :: rest =>
    match actions.add (.name r.input) r.action r.rule with
    | (.ok (), actions) => actions.addAll rest
    | (.error e, _) => .error e

end RuleLang
