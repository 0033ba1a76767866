import RuleLang.RuleBook
import RuleLang.Proofs.Operator.Reachable

/-!
# Runs of a rule book

What may be asked of a rule book that changes it, as data, so that a statement can speak of any
operations in any order. A run does one after the other, whether they succeed or fail.

What an operation does to the rules is said once (`perform_effect`): it keeps a rule under a name,
refuses to, removes a name, or leaves the rules alone. **Nothing else happens to them**, so what
holds of rules over a run follows from these four cases. The limits of a book never change.
-/

set_option autoImplicit false

namespace RuleLang.RuleBook

inductive Operation where
  | add (name : RuleName) (source : String)
  | put (name : RuleName) (source : String)
  | compile (source : String)
  | erase (name : RuleName)
  | addOperator (symbol : String) (op : Operator)
  | eraseOperator (symbol : String)
  | clearOperators
  | renameOperator (symbol newSymbol : String) (keep : Bool)

namespace Operation

/-- The name that an operation is to set, and the text it is to set it to. -/
def setting? : Operation → Option (RuleName × String)
  | add name source | put name source => some (name, source)
  | _ => none

/-- The name that an operation is about. -/
def name? : Operation → Option RuleName
  | add name _ | put name _ | erase name => some name
  | _ => none

end Operation

variable [MatcherBuilder]

/-- Does an operation. A compiled rule that is not kept is no part of the answer. -/
def perform (book : RuleBook) : Operation → Except RuleError Unit × RuleBook
  | .add name source => book.add name source
  | .put name source => book.put name source
  | .compile source => ((book.compile source).1.map fun _ => (), (book.compile source).2)
  | .erase name => (.ok (), book.erase name)
  | .addOperator symbol op => book.addOperator symbol op
  | .eraseOperator symbol => (.ok (), book.eraseOperator symbol)
  | .clearOperators => (.ok (), book.clearOperators)
  | .renameOperator symbol newSymbol keep => book.renameOperator symbol newSymbol keep

/-- The book after some operations, done one after the other. -/
def run (book : RuleBook) : List Operation → RuleBook
  | [] => book
  | op :: ops => (book.perform op).2.run ops

theorem run_append (before after : List Operation) : ∀ (book : RuleBook),
    book.run (before ++ after) = (book.run before).run after := by
  induction before with
  | nil => exact fun _ => rfl
  | cons op before ih => exact fun book => ih (book.perform op).2

/-- What holds of a book and is kept by every operation holds at the end of every run. -/
theorem run_invariant {P : RuleBook → Prop}
    (step : ∀ book op, P book → P (book.perform op).2) (ops : List Operation) :
    ∀ {book : RuleBook}, P book → P (book.run ops) := by
  induction ops with
  | nil => exact fun h => h
  | cons op ops ih => exact fun h => ih (step _ op h)

/-! ## Keeping a rule -/

variable {book : RuleBook} {name : RuleName} {source : String}

/-- Compiling leaves a book as it was, but for the matcher of its table. -/
theorem compile_after (book : RuleBook) (source : String) :
    (book.compile source).2 = book ∨
      book.operators.prepare = .ok book.operators.prepared ∧
        (book.compile source).2 = { book with operators := book.operators.prepared } := by
  rcases Nat.lt_or_ge book.limits.maxRuleBytes source.utf8ByteSize with hlt | hle
  · left
    unfold compile
    rw [if_pos hlt]
  · unfold compile
    rw [if_neg (Nat.not_lt.mpr hle)]
    cases hprepare : book.operators.prepare with
    | error e => exact .inl rfl
    | ok t =>
      obtain ⟨-, rfl⟩ := OperatorTable.prepare_eq_ok_iff.mp hprepare
      exact .inr ⟨rfl, rfl⟩

theorem compile_rules (book : RuleBook) (source : String) :
    (book.compile source).2.rules = book.rules := by
  rcases book.compile_after source with h | ⟨-, h⟩ <;> rw [h]

theorem compile_limits (book : RuleBook) (source : String) :
    (book.compile source).2.limits = book.limits := by
  rcases book.compile_after source with h | ⟨-, h⟩ <;> rw [h]

/-- The rule that a book keeps of a text under a name: the text compiles, and the name is taken or
there is room for one more. -/
def ruleFor (book : RuleBook) (name : RuleName) (source : String) : Except RuleError Rule := do
  let rule ← (book.compile source).1
  if book.contains name ∨ book.rules.size < book.limits.maxRules then .ok rule
  else .error (.limitExceeded .rules book.limits.maxRules (book.rules.size + 1))

theorem ruleFor_eq_ok_iff {rule : Rule} :
    book.ruleFor name source = .ok rule ↔
      (book.compile source).1 = .ok rule ∧
        (book.contains name ∨ book.rules.size < book.limits.maxRules) := by
  unfold ruleFor
  cases (book.compile source).1 with
  | error e => simp [bind, Except.bind]
  | ok rule' =>
    simp only [bind, Except.bind, Except.ok.injEq]
    split
    · next hroom => simp [hroom]
    · next hfull => simp [hfull]

/-- Where a name is taken, compiling is all that can fail. -/
theorem ruleFor_of_contains (h : book.contains name = true) :
    book.ruleFor name source = (book.compile source).1 := by
  unfold ruleFor
  cases (book.compile source).1 with
  | error e => rfl
  | ok rule => exact if_pos (.inl h)

/-- The rule that a book keeps of a text under a name that is not taken yet. -/
def newRule (book : RuleBook) (source : String) : Except RuleError Rule := do
  let rule ← (book.compile source).1
  if book.rules.size < book.limits.maxRules then .ok rule
  else .error (.limitExceeded .rules book.limits.maxRules (book.rules.size + 1))

theorem ruleFor_of_free (h : book.contains name = false) :
    book.ruleFor name source = book.newRule source := by
  unfold ruleFor newRule
  simp only [h, Bool.false_eq_true, false_or]

theorem put_eq (book : RuleBook) (name : RuleName) (source : String) :
    book.put name source =
      match book.ruleFor name source with
      | .ok rule =>
        (.ok (), { (book.compile source).2 with rules := book.rules.insert name rule })
      | .error e => (.error e, (book.compile source).2) := by
  unfold put ruleFor
  rcases hcompile : book.compile source with ⟨result, after⟩
  have hrules : after.rules = book.rules := by
    simpa only [hcompile] using book.compile_rules source
  have hlimits : after.limits = book.limits := by
    simpa only [hcompile] using book.compile_limits source
  have hcontains : after.contains name = book.contains name := by
    unfold contains
    rw [hrules]
  cases result with
  | error e => rfl
  | ok rule =>
    simp only [hrules, hlimits, hcontains, bind, Except.bind]
    by_cases hroom : book.contains name ∨ book.rules.size < book.limits.maxRules
    · have hnotFull : ¬ ((!book.contains name) = true ∧
          book.limits.maxRules ≤ book.rules.size) := by
        rintro ⟨hfree, hfull⟩
        rcases hroom with htaken | hlt
        · simp [htaken] at hfree
        · exact absurd hlt (Nat.not_lt.mpr hfull)
      rw [if_neg hnotFull, if_pos hroom]
    · have hfull : (!book.contains name) = true ∧ book.limits.maxRules ≤ book.rules.size := by
        rw [not_or, Nat.not_lt, Bool.not_eq_true] at hroom
        simpa using hroom
      rw [if_pos hfull, if_neg hroom]

/-- Under a name that is not taken, adding is setting. -/
theorem add_of_free (h : book.contains name = false) (source : String) :
    book.add name source = book.put name source := by
  rw [add, h]
  rfl

theorem add_of_taken (h : book.contains name = true) (source : String) :
    book.add name source = (.error (.ruleExists name), book) := by
  rw [add, h]
  rfl

/-! ## One operation -/

/-- What an operation may answer, and the rules there are afterwards. -/
inductive Effect (book : RuleBook) :
    Operation → Except RuleError Unit → SortedMap RuleName Rule → Prop where
  /-- A rule is kept under a name, in place of the one that may be there. -/
  | kept {op : Operation} {name : RuleName} {source : String} {rule : Rule} :
      op.setting? = some (name, source) → book.ruleFor name source = .ok rule →
        Effect book op (.ok ()) (book.rules.insert name rule)
  | refused {op : Operation} {name : RuleName} {source : String} (e : RuleError) :
      op.setting? = some (name, source) → Effect book op (.error e) book.rules
  | erased (name : RuleName) : Effect book (.erase name) (.ok ()) (book.rules.erase name)
  /-- Not about rules. -/
  | other {op : Operation} (answer : Except RuleError Unit) :
      op.name? = none → Effect book op answer book.rules

theorem put_effect {op : Operation} (h : op.setting? = some (name, source)) :
    Effect book op (book.put name source).1 (book.put name source).2.rules := by
  rw [put_eq]
  cases hrule : book.ruleFor name source with
  | ok rule => exact .kept h hrule
  | error e =>
    simp only [compile_rules]
    exact .refused e h

omit [MatcherBuilder] in
theorem withOperators_rules (book : RuleBook) (operators : Except RuleError OperatorTable) :
    (book.withOperators operators).2.rules = book.rules := by
  cases operators <;> rfl

omit [MatcherBuilder] in
theorem withOperators_limits (book : RuleBook) (operators : Except RuleError OperatorTable) :
    (book.withOperators operators).2.limits = book.limits := by
  cases operators <;> rfl

/-- **All that an operation does to the rules.** -/
theorem perform_effect (book : RuleBook) (op : Operation) :
    Effect book op (book.perform op).1 (book.perform op).2.rules := by
  cases op with
  | add name source =>
    show Effect book _ (book.add name source).1 (book.add name source).2.rules
    cases hname : book.contains name with
    | true =>
      rw [add_of_taken hname]
      exact .refused (.ruleExists name) rfl
    | false =>
      rw [add_of_free hname]
      exact put_effect rfl
  | put name source => exact put_effect rfl
  | compile source =>
    unfold perform
    simp only [compile_rules]
    exact .other _ rfl
  | erase name => exact .erased name
  | addOperator symbol op =>
    unfold perform addOperator
    rw [withOperators_rules]
    exact .other _ rfl
  | eraseOperator symbol => exact .other (.ok ()) rfl
  | clearOperators => exact .other (.ok ()) rfl
  | renameOperator symbol newSymbol keep =>
    unfold perform renameOperator
    rw [withOperators_rules]
    exact .other _ rfl

theorem put_limits (book : RuleBook) (name : RuleName) (source : String) :
    (book.put name source).2.limits = book.limits := by
  rw [put_eq]
  cases book.ruleFor name source <;> exact book.compile_limits source

theorem perform_limits (book : RuleBook) (op : Operation) :
    (book.perform op).2.limits = book.limits := by
  cases op with
  | add name source =>
    show (book.add name source).2.limits = book.limits
    cases hname : book.contains name with
    | true => rw [add_of_taken hname]
    | false =>
      rw [add_of_free hname]
      exact book.put_limits name source
  | put name source => exact book.put_limits name source
  | compile source => exact book.compile_limits source
  | addOperator symbol op => exact book.withOperators_limits _
  | renameOperator symbol newSymbol keep => exact book.withOperators_limits _
  | erase _ | eraseOperator _ | clearOperators => rfl

end RuleLang.RuleBook
