import RuleLang.Rule

/-!
# Rule books

A rule book keeps compiled rules under their names, with the operators that further rules may use
and the limits they have to keep. Its operations answer with a result or an error and with the
book as it is afterwards. One that fails leaves rules, limits and operators as they were; all that
compiling may change is that the table has its matcher at hand. Without a matcher no text is cut.
-/

set_option autoImplicit false

namespace RuleLang

/-- Compiled rules by name, and what further rules are compiled with. -/
structure RuleBook where
  operators : OperatorTable := .builtin
  rules : SortedMap RuleName Rule := .empty
  limits : Limits := {}

namespace RuleBook

/-! ## Looking up -/

def contains (book : RuleBook) (name : RuleName) : Bool := book.rules.contains name

def names (book : RuleBook) : List RuleName := book.rules.keys

def rule (book : RuleBook) (name : RuleName) : Except RuleError Rule :=
  match book.rules.get? name with
  | some rule => .ok rule
  | none => .error (.ruleNotFound name)

def fields (book : RuleBook) (name : RuleName) : Except RuleError (List String) :=
  (book.rule name).map Rule.fields

/-- The value of the rule of a name. Why it has none is not told. -/
def execute (book : RuleBook) (name : RuleName) (record : Record) : Except RuleError Value := do
  match (← book.rule name).evaluate record with
  | .ok value => .ok value
  | .error _ => .error (.invalidExpression (.ruleNamed name))

/-! ## Rules -/

section Compiling

variable [MatcherBuilder]

/-- Compiles a text without keeping the rule. A text that is too long is not even cut, and no text
is where there is no matcher. -/
def compile (book : RuleBook) (source : String) : Except RuleError Rule × RuleBook :=
  let size := source.utf8ByteSize
  if book.limits.maxRuleBytes < size then
    (.error (.limitExceeded .ruleBytes book.limits.maxRuleBytes size), book)
  else
    match book.operators.prepare with
    | .error e => (.error e, book)
    | .ok operators => (Rule.ofText operators book.limits source, { book with operators })

/-- Compiles a text and keeps the rule under a name, in place of the one that may be there. -/
def put (book : RuleBook) (name : RuleName) (source : String) : Except RuleError Unit × RuleBook :=
  match book.compile source with
  | (.error e, book) => (.error e, book)
  | (.ok rule, book) =>
    if !book.contains name ∧ book.limits.maxRules ≤ book.rules.size then
      (.error (.limitExceeded .rules book.limits.maxRules (book.rules.size + 1)), book)
    else (.ok (), { book with rules := book.rules.insert name rule })

/-- Compiles a text and keeps the rule under a name that is not taken. -/
def add (book : RuleBook) (name : RuleName) (source : String) : Except RuleError Unit × RuleBook :=
  if book.contains name then (.error (.ruleExists name), book) else book.put name source

end Compiling

/-- Removes a rule; a name that is not there is no concern. -/
def erase (book : RuleBook) (name : RuleName) : RuleBook :=
  { book with rules := book.rules.erase name }

/-! ## Operators -/

/-- Replaces the operators, if there are any to replace them with. -/
def withOperators (book : RuleBook) : Except RuleError OperatorTable →
    Except RuleError Unit × RuleBook
  | .ok operators => (.ok (), { book with operators })
  | .error e => (.error e, book)

/-- Adds or replaces an operator. The rules keep the operators they were compiled with. -/
def addOperator (book : RuleBook) (symbol : String) (op : Operator) :
    Except RuleError Unit × RuleBook :=
  book.withOperators (book.operators.insert symbol op)

def eraseOperator (book : RuleBook) (symbol : String) : RuleBook :=
  { book with operators := book.operators.erase symbol }

def clearOperators (book : RuleBook) : RuleBook :=
  { book with operators := book.operators.clear }

def renameOperator (book : RuleBook) (symbol newSymbol : String) (keep : Bool) :
    Except RuleError Unit × RuleBook :=
  book.withOperators (book.operators.rename symbol newSymbol keep)

end RuleBook

end RuleLang
