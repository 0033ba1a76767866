import RuleLang.Operator.Table
import RuleLang.Limits

/-!
# Prefix form

A rule is evaluated in prefix form, every operator standing before its two operands. The parts of
a rule are read from the last to the first, with the operators whose left operand is still to come
held back: an operator lets those go that bind tighter than itself, so operators of equal priority
group from left to right. Because the reading goes backwards, a closing parenthesis opens a group
and an opening one ends it.

The reading needs no look at the operands: any parts whose parentheses are balanced and not too
deep have a prefix form. Whether it is one expression is for the evaluation to say.
-/

set_option autoImplicit false

namespace RuleLang.PrefixForm

/-- What is held back: an operator, or the mark of a group that is open. -/
inductive Held where
  | operator (symbol : String)
  | group
deriving DecidableEq, Repr

/-- The parts read so far: those that are in place, those held back, the last one first, and how
many groups are open. -/
structure State where
  output : List Part := []
  held : List Held := []
  depth : Nat := 0
deriving DecidableEq, Repr

/-- Lets go the operators that bind tighter than a priority, up to the innermost group. -/
def letGoTighter (table : OperatorTable) (priority : Int) (output : List Part) :
    List Held → List Part × List Held
  | .operator symbol :: held =>
    if table.priority symbol < priority then
      letGoTighter table priority (.operator symbol :: output) held
    else (output, .operator symbol :: held)
  | held => (output, held)

/-- Lets go the operators of the innermost group and ends it; none if no group is open. -/
def endGroup? (output : List Part) : List Held → Option (List Part × List Held)
  | [] => none
  | .group :: held => some (output, held)
  | .operator symbol :: held => endGroup? (.operator symbol :: output) held

/-- Lets go everything; none if a group is open. -/
def letGoAll? (output : List Part) : List Held → Option (List Part)
  | [] => some output
  | .group :: _ => none
  | .operator symbol :: held => letGoAll? (.operator symbol :: output) held

variable (table : OperatorTable) (limits : Limits) (source : String)

/-- Reads one more part, the one before those already read. -/
def read (part : Part) (state : State) : Except RuleError State :=
  match part.paren? with
  | some .closing =>
    if limits.maxNestingDepth < state.depth + 1 then
      .error (.limitExceeded .nestingDepth limits.maxNestingDepth (state.depth + 1))
    else .ok { state with held := .group :: state.held, depth := state.depth + 1 }
  | some .opening =>
    match endGroup? state.output state.held with
    | none => .error (.invalidExpression (.rule source))
    | some (output, held) => .ok ⟨output, held, state.depth - 1⟩
  | none =>
    match part with
    | .operator symbol =>
      let (output, held) := letGoTighter table (table.priority symbol) state.output state.held
      .ok { state with output, held := .operator symbol :: held }
    | operand => .ok { state with output := operand :: state.output }

def readAll : List Part → Except RuleError State
  | [] => .ok {}
  | part :: parts => do read table limits source part (← readAll parts)

/-- The prefix form of the parts of a rule. -/
def ofParts (parts : List Part) : Except RuleError (List Part) := do
  let state ← readAll table limits source parts
  match letGoAll? state.output state.held with
  | none => .error (.invalidExpression (.rule source))
  | some output => .ok output

end RuleLang.PrefixForm
