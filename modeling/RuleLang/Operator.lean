import RuleLang.Value

/-!
# Operators

An operator is a priority and a function of two values. The function may fail; why, is all that
the evaluation of a rule learns about it.
-/

set_option autoImplicit false

namespace RuleLang

/-- Why an operator has no value for its operands. Comparison knows one reason more, two values that
cannot be compared though neither is `null` (`Operator.Unordered`). There are no such values, so the
reason is left out here; whatever the reason is, a rule fails in the same way. -/
inductive OperatorError where
  /-- An operand without a numeric view; the phrase describes it. -/
  | notANumber (operand : String)
  | divisionByZero
  | overflow
  /-- An operand that is `null` where a value is needed. -/
  | undefined
deriving DecidableEq, Repr

def OperatorError.message : OperatorError → String
  | notANumber operand => operand ++ " is not a number"
  | divisionByZero => "division by zero"
  | overflow => "arithmetic overflow"
  | undefined => "operand is undefined"

/-- A binary operator. The smaller its priority, the tighter it binds. -/
structure Operator where
  priority : Int
  apply : Value → Value → Except OperatorError Value

/-- How a listing shows an operator: its function cannot be shown. -/
def Operator.listing (op : Operator) : String :=
  "Operator \x7b priority: " ++ toString op.priority ++ ", .. \x7d"

end RuleLang
