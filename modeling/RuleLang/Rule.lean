import RuleLang.Segment.Rule
import RuleLang.PrefixForm
import RuleLang.Evaluate
import RuleLang.Part.Display

/-!
# Compiled rules

A rule is compiled once: cut into parts, brought into prefix form, and bound to the operators it
refers to as they are at that moment. What happens to the operator table later does not change it.

A text is accepted as a rule if its prefix form is one expression. That is found out by a dry run
with every field at the text `1`. An operator may fail on such values, which says nothing about
the rule; the run is then repeated with operators that never fail.
-/

set_option autoImplicit false

namespace RuleLang

/-- A rule in prefix form, with the text it was compiled from and its operators. -/
structure Rule where
  source : String
  sequence : List Part
  bound : OperatorSet

namespace Rule

def fields (rule : Rule) : List String := Part.fieldsOf rule.sequence

def display (rule : Rule) : String := Part.displayAll rule.sequence

def evaluate (rule : Rule) (record : Record) : Except EvalError Value :=
  RuleLang.evaluate rule.bound record rule.sequence

/-! ## Compiling -/

/-- The record of a dry run: every field of the rule is there. -/
def sampleRecord (rule : Rule) : Record :=
  .ofList (rule.fields.map fun name => (name, .text "1"))

/-- The rule with operators that never fail in place of its own. -/
def inert (rule : Rule) : Rule :=
  { rule with bound := rule.bound.map fun _ => ⟨0, fun _ _ => .ok .null⟩ }

/-- Whether a sequence has the shape of one expression, whatever its operators compute. -/
def isExpression (rule : Rule) : Bool :=
  match rule.evaluate rule.sampleRecord with
  | .ok _ => true
  | .error (.operator _) =>
    match rule.inert.evaluate rule.sampleRecord with
    | .ok _ => true
    | .error _ => false
  | .error _ => false

/-- Compiles a text with the operators of a table. -/
def ofText (table : OperatorTable) (limits : Limits) (source : String) : Except RuleError Rule := do
  let sequence ← PrefixForm.ofParts table limits source (table.segment source)
  let rule : Rule := ⟨source, sequence, table.bindings sequence⟩
  if rule.isExpression then .ok rule else .error (.invalidExpression (.rule source))

end Rule

end RuleLang
