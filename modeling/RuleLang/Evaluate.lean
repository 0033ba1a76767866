import RuleLang.Operator.Table
import RuleLang.Record

/-!
# Evaluating a prefix form

A sequence in prefix form is evaluated in one pass from left to right. An operator waits for its
operands, and so does an operand that directly follows an operator: it is a left operand. The
next operand is the right one; the operator is applied, and its value is an operand in turn, which
completes every application that was waiting for it. When nothing waits any more the value is the
result, and whatever follows is not looked at.
-/

set_option autoImplicit false

namespace RuleLang

/-- Why a sequence has no value. -/
inductive EvalError where
  /-- An operand came where nothing was waiting for one. -/
  | missingOperand
  | missingOperator
  /-- An operator that the rule has no binding for. -/
  | unknownOperator (symbol : String)
  /-- The sequence ended before it was one expression. -/
  | incomplete
  | operator (cause : OperatorError)
deriving DecidableEq, Repr

def EvalError.message : EvalError → String
  | missingOperand => "operand expected but the stack was empty"
  | missingOperator => "operator expected before operand"
  | unknownOperator symbol => "operator '" ++ symbol ++ "' is not bound for this rule"
  | incomplete => "expression did not reduce to a single value"
  | operator cause => cause.message

namespace Evaluate

/-- What waits for an operand that is still to come, or for an application. -/
inductive Waiting where
  | operator (symbol : String)
  | operand (value : Value)
deriving DecidableEq, Repr

/-- What an operand leads to: the result, or more waiting, the last come first. -/
inductive Progress where
  | result (value : Value)
  | waiting (stack : List Waiting)
deriving DecidableEq, Repr

def operandValue (record : Record) : Part → Value
  | .field name => record.field name
  | .text content => .text content
  | .other literal => .text literal
  | .operator symbol => .text symbol

def applySymbol (bound : OperatorSet) (symbol : String) (left right : Value) :
    Except EvalError Value :=
  match bound.get? (OperatorTable.key symbol) with
  | none => .error (.unknownOperator symbol)
  | some op =>
    match op.apply left right with
    | .ok value => .ok value
    | .error cause => .error (.operator cause)

/-- Completes the applications that wait for a right operand. -/
def complete (bound : OperatorSet) (right : Value) : List Waiting → Except EvalError Progress
  | .operand left :: .operator symbol :: stack => do
    let value ← applySymbol bound symbol left right
    match stack with
    | [] => .ok (.result value)
    | .operator _ :: _ => .ok (.waiting (.operand value :: stack))
    | .operand _ :: _ => complete bound value stack
  | .operand _ :: _ => .error .missingOperator
  | _ => .error .missingOperand

/-- Takes in an operand: a left one waits, a right one completes what waits for it. -/
def takeOperand (bound : OperatorSet) (value : Value) : List Waiting → Except EvalError Progress
  | .operator symbol :: stack => .ok (.waiting (.operand value :: .operator symbol :: stack))
  | stack => complete bound value stack

/-- Goes through the parts of a sequence. -/
def run (bound : OperatorSet) (record : Record) (stack : List Waiting) :
    List Part → Except EvalError Value
  | [] => .error .incomplete
  | .operator symbol :: parts => run bound record (.operator symbol :: stack) parts
  | part :: parts => do
    match ← takeOperand bound (operandValue record part) stack with
    | .result value => .ok value
    | .waiting stack => run bound record stack parts

end Evaluate

/-- The value of a sequence in prefix form on a record, its symbols standing for the operators
bound to them. -/
def evaluate (bound : OperatorSet) (record : Record) (sequence : List Part) :
    Except EvalError Value :=
  Evaluate.run bound record [] sequence

end RuleLang
