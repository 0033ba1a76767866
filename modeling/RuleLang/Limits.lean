/-!
# Limits

What a rule book allows, so that a text from an end user cannot use it up: far more than any rule
written by hand needs.
-/

set_option autoImplicit false

namespace RuleLang

structure Limits where
  /-- The greatest length of a rule, in bytes. -/
  maxRuleBytes : Nat := 64 * 1024
  /-- The greatest depth of parentheses. -/
  maxNestingDepth : Nat := 100
  /-- The greatest number of rules kept at a time. -/
  maxRules : Nat := 100000
deriving DecidableEq, Repr, Inhabited

end RuleLang
