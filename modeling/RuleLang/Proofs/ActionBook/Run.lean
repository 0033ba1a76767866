import RuleLang.ActionBook
import RuleLang.Proofs.ActionBook.FreeNumber
import RuleLang.Proofs.RuleBook.Run

/-!
# Runs of an action book

What may be asked of an action book that changes it, as data. Its owner may also turn to the rule
book itself, for the operators or for rules of their own. An owner who is considerate keeps away
from the numbers that the actions hold at that moment (`Considerate`): whoever removes or replaces
the rule of an action behind its back changes what the action means.

What an operation does to the rules, to the actions and to the next number is said once
(`perform_effect`). Whether it fails is up to the action being there, and to the checks of the rule
book.
-/

set_option autoImplicit false

namespace RuleLang.ActionBook

inductive Operation where
  | add (input : RuleName) (action source : String)
  | update (input : RuleName) (action source : String)
  | erase (input : RuleName) (action : String)
  /-- An operation of the rule book, asked for by its owner. -/
  | book (op : RuleBook.Operation)

/-- The name that the owner turns to. -/
def Operation.turnsTo? : Operation → Option RuleName
  | book op => op.name?
  | _ => none

variable [MatcherBuilder]

def perform (actions : ActionBook) : Operation → Except RuleError Unit × ActionBook
  | .add input action source => actions.add input action source
  | .update input action source => actions.update input action source
  | .erase input action => (.ok (), actions.erase input action)
  | .book op => actions.onBook (·.perform op)

/-- The actions after some operations, done one after the other. -/
def run (actions : ActionBook) : List Operation → ActionBook
  | [] => actions
  | op :: ops => (actions.perform op).2.run ops

/-! ## Numbers that are held -/

/-- The numbers of all actions, input after input. -/
def numbersOf (inputs : SortedMap RuleName (List Guarded)) : List Int :=
  inputs.values.flatMap (·.map Guarded.rule)

/-- The numbers that the actions hold. -/
def numbers (actions : ActionBook) : List Int := numbersOf actions.inputs

/-- Whether a name is the number of an action. -/
def Holds (actions : ActionBook) (name : RuleName) : Prop := ∃ id ∈ actions.numbers, name = .id id

/-- Whether an operation leaves the rules of the actions to the actions. -/
def Allows (actions : ActionBook) (op : Operation) : Prop :=
  ∀ name ∈ op.turnsTo?, ¬ actions.Holds name

/-- Whether every operation of a run leaves the rules of the actions to the actions. -/
def Considerate : ActionBook → List Operation → Prop
  | _, [] => True
  | actions, op :: ops => actions.Allows op ∧ Considerate (actions.perform op).2 ops

instance (actions : ActionBook) (name : RuleName) : Decidable (actions.Holds name) :=
  inferInstanceAs (Decidable (∃ id ∈ actions.numbers, name = .id id))

instance (actions : ActionBook) (op : Operation) : Decidable (actions.Allows op) :=
  inferInstanceAs (Decidable (∀ name ∈ op.turnsTo?, ¬ actions.Holds name))

instance instDecidableConsiderate : ∀ (actions : ActionBook) (ops : List Operation),
    Decidable (Considerate actions ops)
  | _, [] => isTrue trivial
  | actions, op :: ops =>
    have := instDecidableConsiderate (actions.perform op).2 ops
    inferInstanceAs (Decidable (_ ∧ _))

/-- What is kept by every operation that is allowed holds at the end of a considerate run. -/
theorem run_invariant {P : ActionBook → Prop}
    (step : ∀ actions op, P actions → actions.Allows op → P (actions.perform op).2)
    {ops : List Operation} : ∀ {actions : ActionBook},
      Considerate actions ops → P actions → P (actions.run ops) := by
  induction ops with
  | nil => exact fun _ h => h
  | cons op ops ih => exact fun hops h => ih hops.2 (step _ op h hops.1)

/-! ## One operation -/

variable {actions : ActionBook} {input : RuleName} {action source : String}

/-- The number that an action gets if it is added next. -/
def freeId (actions : ActionBook) : Int := leastFreeId actions.book actions.nextId

omit [MatcherBuilder] in
theorem contains_freeId (actions : ActionBook) :
    actions.book.contains (.id actions.freeId) = false :=
  Bool.eq_false_iff.mpr (leastFreeId_spec actions.book actions.nextId).free

/-- The actions that are left of an input when one is removed. -/
def left (actions : ActionBook) (input : RuleName) (action : String) : List Guarded :=
  (actions.guardedOf input).eraseP (·.action == action)

/-- What an operation may answer, and the rules, the actions and the next number there are
afterwards. -/
inductive Effect (actions : ActionBook) : Operation → Except RuleError Unit →
    SortedMap RuleName Rule → SortedMap RuleName (List Guarded) → Int → Prop where
  /-- The action goes behind the others of its input. -/
  | added {input : RuleName} {action source : String} {rule : Rule} :
      actions.ruleOf? input action = none → actions.book.newRule source = .ok rule →
        Effect actions (.add input action source) (.ok ())
          (actions.book.rules.insert (.id actions.freeId) rule)
          (actions.inputs.insertList input (actions.guardedOf input ++ [⟨action, actions.freeId⟩]))
          (actions.freeId + 1)
  /-- The numbers that were looked at are not looked at again. -/
  | notAdded {input : RuleName} {action source : String} {e : RuleError} :
      actions.ruleOf? input action = none → actions.book.newRule source = .error e →
        Effect actions (.add input action source) (.error e) actions.book.rules actions.inputs
          actions.freeId
  | taken {input : RuleName} {action : String} {id : Int} (source : String) :
      actions.ruleOf? input action = some id →
        Effect actions (.add input action source) (.error (.actionExists input action))
          actions.book.rules actions.inputs actions.nextId
  | updated {input : RuleName} {action source : String} {id : Int} {rule : Rule} :
      actions.ruleOf? input action = some id → actions.book.ruleFor (.id id) source = .ok rule →
        Effect actions (.update input action source) (.ok ())
          (actions.book.rules.insert (.id id) rule) actions.inputs actions.nextId
  | notUpdated {input : RuleName} {action source : String} {id : Int} {e : RuleError} :
      actions.ruleOf? input action = some id → actions.book.ruleFor (.id id) source = .error e →
        Effect actions (.update input action source) (.error e) actions.book.rules actions.inputs
          actions.nextId
  | missing {input : RuleName} {action : String} {e : RuleError} (source : String) :
      actions.ruleOf input action = .error e →
        Effect actions (.update input action source) (.error e) actions.book.rules actions.inputs
          actions.nextId
  | erased {input : RuleName} {action : String} {id : Int} :
      actions.ruleOf? input action = some id →
        Effect actions (.erase input action) (.ok ()) (actions.book.rules.erase (.id id))
          (actions.inputs.insertList input (actions.left input action)) actions.nextId
  | absent {input : RuleName} {action : String} :
      actions.ruleOf? input action = none →
        Effect actions (.erase input action) (.ok ()) actions.book.rules actions.inputs
          actions.nextId
  | onBook (op : RuleBook.Operation) :
      Effect actions (.book op) (actions.book.perform op).1 (actions.book.perform op).2.rules
        actions.inputs actions.nextId

theorem add_effect (actions : ActionBook) (input : RuleName) (action source : String) :
    Effect actions (.add input action source) (actions.add input action source).1
      (actions.add input action source).2.book.rules (actions.add input action source).2.inputs
      (actions.add input action source).2.nextId := by
  unfold add
  cases hrule : actions.ruleOf? input action with
  | some id => exact .taken source hrule
  | none =>
    have hput := RuleBook.add_of_free actions.contains_freeId source
    rw [RuleBook.put_eq, RuleBook.ruleFor_of_free actions.contains_freeId, freeId] at hput
    simp only [Option.isSome_none, Bool.false_eq_true, if_false, hput]
    cases hnew : actions.book.newRule source with
    | ok rule =>
      simp only [← SortedMap.insertList_append_singleton]
      exact .added hrule hnew
    | error e =>
      simp only [RuleBook.compile_rules]
      exact .notAdded hrule hnew

omit [MatcherBuilder] in
/-- An action that is there has its number; why one is not there is told by the error. -/
theorem ruleOf_eq_ok_iff {id : Int} :
    actions.ruleOf input action = .ok id ↔ actions.ruleOf? input action = some id := by
  unfold ruleOf
  cases actions.ruleOf? input action with
  | some id' => simp
  | none =>
    simp only [reduceCtorEq, iff_false]
    split <;> simp

theorem update_effect (actions : ActionBook) (input : RuleName) (action source : String) :
    Effect actions (.update input action source) (actions.update input action source).1
      (actions.update input action source).2.book.rules
      (actions.update input action source).2.inputs
      (actions.update input action source).2.nextId := by
  unfold update
  cases hid : actions.ruleOf input action with
  | error e => exact .missing source hid
  | ok id =>
    have hrule := ruleOf_eq_ok_iff.mp hid
    simp only [RuleBook.put_eq]
    cases hnew : actions.book.ruleFor (.id id) source with
    | ok rule => exact .updated hrule hnew
    | error e =>
      simp only [RuleBook.compile_rules]
      exact .notUpdated hrule hnew

theorem erase_effect (actions : ActionBook) (input : RuleName) (action : String) :
    Effect actions (.erase input action) (.ok ()) (actions.erase input action).book.rules
      (actions.erase input action).inputs (actions.erase input action).nextId := by
  unfold erase
  cases hrule : actions.ruleOf? input action with
  | none => exact .absent hrule
  | some id => exact .erased hrule

/-- **All that an operation does.** -/
theorem perform_effect (actions : ActionBook) (op : Operation) :
    Effect actions op (actions.perform op).1 (actions.perform op).2.book.rules
      (actions.perform op).2.inputs (actions.perform op).2.nextId := by
  cases op with
  | add input action source => exact actions.add_effect input action source
  | update input action source => exact actions.update_effect input action source
  | erase input action => exact actions.erase_effect input action
  | book op => exact .onBook op

end RuleLang.ActionBook
