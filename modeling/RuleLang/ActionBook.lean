import RuleLang.RuleBook

/-!
# Actions of inputs

An input — a field of a form, say — has actions such as `show` or `require`, each guarded by a
rule: the action is due when the value of its rule counts as true. The rules are kept in a rule
book under numbers of their own, the least that are free, so they meet neither each other nor a
rule that somebody else put into the book.

A rule that has no value while one of its fields is missing or `null` does not trigger: the form
is simply not filled in yet. Any other failure is an error.
-/

set_option autoImplicit false

namespace RuleLang

/-- An action and the number of the rule that guards it. -/
structure Guarded where
  action : String
  rule : Int
deriving DecidableEq, Repr

/-- The actions of every input in the order they were added, with the book of their rules. -/
structure ActionBook where
  book : RuleBook := {}
  inputs : SortedMap RuleName (List Guarded) := .empty
  /-- No rule of an action that is still to be added gets a smaller number. -/
  nextId : Int := 0

namespace ActionBook

/-- A rule book put to use for actions; the rules in it stay what they are. -/
def ofBook (book : RuleBook) : ActionBook := { book }

/-! ## Looking up -/

def guardedOf (actions : ActionBook) (input : RuleName) : List Guarded :=
  (actions.inputs.get? input).getD []

/-- The number of the rule that guards an action. -/
def ruleOf? (actions : ActionBook) (input : RuleName) (action : String) : Option Int :=
  ((actions.guardedOf input).find? (·.action == action)).map Guarded.rule

def ruleOf (actions : ActionBook) (input : RuleName) (action : String) : Except RuleError Int :=
  match actions.ruleOf? input action with
  | some rule => .ok rule
  | none =>
    if actions.inputs.contains input then .error (.actionNotRegistered input action)
    else .error (.inputNotRegistered input)

def actionsOf (actions : ActionBook) (input : RuleName) : List String :=
  (actions.guardedOf input).map Guarded.action

def inputNames (actions : ActionBook) : List RuleName := actions.inputs.keys

def fields (actions : ActionBook) (input : RuleName) (action : String) :
    Except RuleError (List String) := do
  actions.book.fields (.id (← actions.ruleOf input action))

/-! ## Changes -/

/-- The least number from a given one on that no rule of a book has. The names of a book are in
order, so one look at each of them is enough. -/
def leastFreeId (book : RuleBook) (start : Int) : Int :=
  book.names.foldl (fun id name => if name = .id id then id + 1 else id) start

/-- Adds an action that an input does not have yet. -/
def add [MatcherBuilder] (actions : ActionBook) (input : RuleName) (action source : String) :
    Except RuleError Unit × ActionBook :=
  if (actions.ruleOf? input action).isSome then (.error (.actionExists input action), actions)
  else
    let id := leastFreeId actions.book actions.nextId
    match actions.book.add (.id id) source with
    | (.error e, book) => (.error e, { actions with book, nextId := id })
    | (.ok (), book) =>
      let guarded := actions.guardedOf input ++ [⟨action, id⟩]
      (.ok (), { book, inputs := actions.inputs.insert input guarded, nextId := id + 1 })

def update [MatcherBuilder] (actions : ActionBook) (input : RuleName) (action source : String) :
    Except RuleError Unit × ActionBook :=
  match actions.ruleOf input action with
  | .error e => (.error e, actions)
  | .ok id =>
    let (result, book) := actions.book.put (.id id) source
    (result, { actions with book })

/-- Removes an action and its rule; an action that is not there is no concern. -/
def erase (actions : ActionBook) (input : RuleName) (action : String) : ActionBook :=
  match actions.ruleOf? input action with
  | none => actions
  | some id =>
    let left := (actions.guardedOf input).eraseP (·.action == action)
    { actions with
      book := actions.book.erase (.id id)
      inputs := if left.isEmpty then actions.inputs.erase input
        else actions.inputs.insert input left }

/-- Hands the rule book to an operation of its own. -/
def onBook {α : Type} (actions : ActionBook) (operation : RuleBook → α × RuleBook) :
    α × ActionBook :=
  let (result, book) := operation actions.book
  (result, { actions with book })

/-! ## Evaluation -/

/-- Whether one of some fields is missing or `null` in a record. -/
def lacksField (record : Record) (fields : List String) : Bool :=
  fields.any fun name => (record.field name).isNull

def isDue (actions : ActionBook) (input : RuleName) (record : Record) (guarded : Guarded) :
    Except RuleError Bool :=
  match actions.book.execute (.id guarded.rule) record with
  | .ok value => .ok value.truthy
  | .error (.invalidExpression _) => do
    if lacksField record (← actions.book.fields (.id guarded.rule)) then .ok false
    else .error (.invalidExpression (.guarding guarded.action input))
  | .error e => .error e

/-- Of some actions of an input those that are due. The first failure ends the search. -/
def dueAmong (actions : ActionBook) (input : RuleName) (record : Record) :
    List Guarded → Except RuleError (List String)
  | [] => .ok []
  | guarded :: rest => do
    let due ← actions.isDue input record guarded
    let more ← actions.dueAmong input record rest
    .ok (if due then guarded.action :: more else more)

/-- The actions of an input that are due, in the order they were added. -/
def evaluate (actions : ActionBook) (input : RuleName) (record : Record) :
    Except RuleError (List String) :=
  actions.dueAmong input record (actions.guardedOf input)

/-- The actions that are due, of every input that has any. -/
def evaluateAll (actions : ActionBook) (record : Record) :
    Except RuleError (List (RuleName × List String)) :=
  actions.inputNames.mapM fun input =>
    (actions.evaluate input record).map fun due => (input, due)

end ActionBook

end RuleLang
