import RuleLang.RuleName
import RuleLang.Record

/-!
# Errors

What can go wrong with a rule, a rule book or an action, as causes. The code of an error is stable
and meant for programs, its message for the people who write rules.
-/

set_option autoImplicit false

namespace RuleLang

/-- The limits that a rule book keeps. -/
inductive Limit where
  | ruleBytes
  | nestingDepth
  | rules
deriving DecidableEq, Repr

def Limit.name : Limit → String
  | ruleBytes => "max_rule_bytes"
  | nestingDepth => "max_nesting_depth"
  | rules => "max_rules"

/-- Which expression an error is about. -/
inductive Subject where
  /-- A rule by its text. -/
  | rule (source : String)
  /-- A rule by the name it is kept under. -/
  | ruleNamed (name : RuleName)
  /-- The rule that guards an action. -/
  | guarding (action : String) (input : RuleName)
deriving DecidableEq, Repr

def Subject.display : Subject → String
  | rule source => source
  | ruleNamed name => "with rule name '" ++ name.display ++ "'"
  | guarding action input => "for action '" ++ action ++ "' of input " ++ input.display

/-- What an operation on rules answers instead of a result. -/
inductive RuleError where
  | invalidExpression (subject : Subject)
  | ruleExists (name : RuleName)
  | ruleNotFound (name : RuleName)
  | operatorNotFound (symbol : String)
  | invalidOperator (symbol : String)
  | actionExists (input : RuleName) (action : String)
  | actionNotRegistered (input : RuleName) (action : String)
  | inputNotRegistered (input : RuleName)
  | limitExceeded (limit : Limit) (allowed actual : Nat)
  | invalidRecord (cause : Record.Error)
  /-- A failure of what the rules are read with. -/
  | engine (reason : String)
deriving DecidableEq, Repr

namespace RuleError

def code : RuleError → String
  | invalidExpression _ => "INVALID_EXP"
  | ruleExists _ => "RULE_EXISTS"
  | ruleNotFound _ => "RULE_NOT_EXISTS"
  | operatorNotFound _ => "OPERATOR_NOT_EXISTS"
  | invalidOperator _ => "INVALID_OPERATOR"
  | actionExists _ _ => "ACTION_EXISTS"
  | actionNotRegistered _ _ => "ACTION_NOT_EXISTS"
  | inputNotRegistered _ => "INPUT_NOT_EXISTS"
  | limitExceeded _ _ _ => "LIMIT_EXCEEDED"
  | invalidRecord _ => "INVALID_RECORD"
  | engine _ => "ENGINE"

def message : RuleError → String
  | invalidExpression subject => "Expression " ++ subject.display ++ " is not valid."
  | ruleExists name =>
    "Rule name " ++ name.display ++ " already exists. Please use another name or call update."
  | ruleNotFound name => "Rule " ++ name.display ++ " doesn't exist. Please call parse first."
  | operatorNotFound symbol => "Operator '" ++ symbol ++ "' doesn't exist."
  | invalidOperator symbol => "Invalid operator symbol '" ++ symbol ++ "'"
  | actionExists input action =>
    "Action '" ++ action ++ "' is already registered for input " ++ input.display ++ "."
  | actionNotRegistered input action =>
    "Action '" ++ action ++ "' is not registered for input " ++ input.display ++ "."
  | inputNotRegistered input => "Input " ++ input.display ++ " has no registered actions."
  | limitExceeded limit allowed actual =>
    "Resource limit exceeded: " ++ limit.name ++ " (limit: " ++ toString allowed ++ ", actual: " ++
      toString actual ++ ")"
  | invalidRecord cause => "Invalid record: " ++ cause.message
  | engine reason => "Engine error: " ++ reason

end RuleError

end RuleLang
