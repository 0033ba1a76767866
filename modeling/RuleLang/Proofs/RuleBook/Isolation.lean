import RuleLang.Proofs.RuleBook.Compile
import RuleLang.Proofs.RuleBook.Run
import RuleLang.Proofs.Rule.Acceptance

/-!
# Rules do not disturb each other

What a rule book shows of a name depends on two things only: the last text that the name was set to
and the operators of that moment. **A name that is set and not touched since shows what it showed
right after it was set, and a name that is not set shows nothing** (`sight_of_run`), whatever else
was asked of the book in between: other names, other operators, or attempts on the name itself that
failed.

An operation touches a name if it is about that name and succeeds. All else leaves what is kept
under the name alone (`get?_of_not_touches`), and that is all that can be seen of it (`sight_eq`).
-/

set_option autoImplicit false

namespace RuleLang

/-- What can be seen of a name: the rule that is kept under it, the fields of that rule, and its
value on every record. -/
structure Sight where
  rule : Except RuleError Rule
  fields : Except RuleError (List String)
  value : Record → Except RuleError Value

/-- A name that no rule is kept under. -/
def Sight.nothing (name : RuleName) : Sight where
  rule := .error (.ruleNotFound name)
  fields := .error (.ruleNotFound name)
  value _ := .error (.ruleNotFound name)

/-- A name with a rule. Why a rule has no value is not told. -/
def Rule.sight (name : RuleName) (rule : Rule) : Sight where
  rule := .ok rule
  fields := .ok rule.fields
  value record := (rule.evaluate record).mapError fun _ => .invalidExpression (.ruleNamed name)

namespace RuleBook

variable {book : RuleBook} {op : Operation} {name : RuleName} {source : String}

def sight (book : RuleBook) (name : RuleName) : Sight where
  rule := book.rule name
  fields := book.fields name
  value := book.execute name

/-- **Nothing but the rule of a name is seen of it.** -/
theorem sight_eq (book : RuleBook) (name : RuleName) :
    book.sight name =
      match book.rules.get? name with
      | some rule => rule.sight name
      | none => .nothing name := by
  cases hrule : book.rules.get? name with
  | none =>
    have hnone : book.rule name = .error (.ruleNotFound name) := by rw [RuleBook.rule, hrule]
    unfold sight fields execute
    rw [hnone]
    rfl
  | some rule =>
    have hsome : book.rule name = .ok rule := by rw [RuleBook.rule, hrule]
    have hvalue : book.execute name = (rule.sight name).value := by
      funext record
      unfold execute
      rw [hsome]
      simp only [Rule.sight, bind, Except.bind]
      cases rule.evaluate record <;> rfl
    unfold sight fields
    rw [hsome, hvalue]
    rfl

section Builder

variable [MatcherBuilder]

/-! ## Operations that touch a name -/

/-- Whether an operation is about a name and succeeds. -/
def Touches (book : RuleBook) (op : Operation) (name : RuleName) : Prop :=
  op.name? = some name ∧ (book.perform op).1.isOk = true

/-- Whether an operation sets a name to a text. -/
def Sets (book : RuleBook) (op : Operation) (name : RuleName) (source : String) : Prop :=
  op.setting? = some (name, source) ∧ (book.perform op).1.isOk = true

/-- Whether no operation of a run touches a name. -/
def Untouched (name : RuleName) : RuleBook → List Operation → Prop
  | _, [] => True
  | book, op :: ops => ¬ book.Touches op name ∧ Untouched name (book.perform op).2 ops

instance (book : RuleBook) (op : Operation) (name : RuleName) : Decidable (book.Touches op name) :=
  inferInstanceAs (Decidable (_ ∧ _))

instance (book : RuleBook) (op : Operation) (name : RuleName) (source : String) :
    Decidable (book.Sets op name source) :=
  inferInstanceAs (Decidable (_ ∧ _))

instance (name : RuleName) : ∀ (book : RuleBook) (ops : List Operation),
    Decidable (Untouched name book ops)
  | _, [] => isTrue trivial
  | book, op :: ops =>
    have := instDecidableUntouched name (book.perform op).2 ops
    inferInstanceAs (Decidable (_ ∧ _))

omit [MatcherBuilder] in
theorem name?_of_setting? (h : op.setting? = some (name, source)) : op.name? = some name := by
  cases op with
  | add _ _ | put _ _ =>
    obtain ⟨rfl, rfl⟩ := Prod.mk.inj (Option.some.inj h)
    rfl
  | compile _ | erase _ | addOperator _ _ | eraseOperator _ | clearOperators
  | renameOperator _ _ _ => exact absurd h (by simp [Operation.setting?])

/-- A name is touched by setting it and by removing it. -/
theorem sets_or_erase (h : book.Touches op name) :
    (∃ source, book.Sets op name source) ∨ op = .erase name := by
  obtain ⟨hname, hok⟩ := h
  cases op with
  | add name' source | put name' source =>
    obtain rfl : name' = name := Option.some.inj hname
    exact .inl ⟨source, rfl, hok⟩
  | erase name' =>
    obtain rfl : name' = name := Option.some.inj hname
    exact .inr rfl
  | compile _ | addOperator _ _ | eraseOperator _ | clearOperators | renameOperator _ _ _ =>
    exact absurd hname (by simp [Operation.name?])

theorem get?_of_sets (h : book.Sets op name source) :
    ∃ rule, (book.compile source).1 = .ok rule ∧
      (book.perform op).2.rules.get? name = some rule := by
  obtain ⟨hsetting, hok⟩ := h
  have heffect := book.perform_effect op
  generalize (book.perform op).1 = answer at heffect hok
  generalize (book.perform op).2.rules = rules at heffect
  cases heffect with
  | @kept _ name' source' rule hsetting' hrule =>
    obtain ⟨rfl, rfl⟩ := Prod.mk.inj (Option.some.inj (hsetting'.symm.trans hsetting))
    exact ⟨rule, (ruleFor_eq_ok_iff.mp hrule).1, by simp [SortedMap.get?_insert]⟩
  | refused e _ => exact absurd hok (by simp [Except.isOk, Except.toBool])
  | erased _ => exact absurd hsetting (by simp [Operation.setting?])
  | other _ hname => exact absurd (hname.symm.trans (name?_of_setting? hsetting)) (by simp)

theorem get?_of_not_touches (h : ¬ book.Touches op name) :
    (book.perform op).2.rules.get? name = book.rules.get? name := by
  have heffect := book.perform_effect op
  unfold Touches at h
  generalize (book.perform op).1 = answer at heffect h
  generalize (book.perform op).2.rules = rules at heffect
  cases heffect with
  | @kept _ name' _ rule hsetting _ =>
    have hne : name ≠ name' := by
      rintro rfl
      exact h ⟨name?_of_setting? hsetting, rfl⟩
    rw [SortedMap.get?_insert, if_neg (by simpa using hne)]
  | refused _ _ | other _ _ => rfl
  | erased name' =>
    have hne : name ≠ name' := by
      rintro rfl
      exact h ⟨rfl, rfl⟩
    rw [SortedMap.get?_erase, if_neg (by simpa using hne)]

theorem get?_of_untouched {ops : List Operation} : ∀ {book : RuleBook},
    Untouched name book ops → (book.run ops).rules.get? name = book.rules.get? name := by
  induction ops with
  | nil => exact fun _ => rfl
  | cons op ops ih =>
    rintro book ⟨hop, hops⟩
    exact (ih hops).trans (get?_of_not_touches hop)

/-- Every run either set a name and touched it no more, or never set it since it was made or since
the name was removed. -/
theorem sets_last_or_never (name : RuleName) (ops : List Operation) : ∀ (book : RuleBook),
    (∃ before op source after, ops = before ++ op :: after ∧
      (book.run before).Sets op name source ∧
      Untouched name (book.run (before ++ [op])) after) ∨
    (∃ before after, ops = before ++ after ∧
      (before = [] ∨ ∃ earlier, before = earlier ++ [.erase name]) ∧
      Untouched name (book.run before) after) := by
  induction ops with
  | nil => exact fun _ => .inr ⟨[], [], rfl, .inl rfl, trivial⟩
  | cons op ops ih =>
    intro book
    rcases ih (book.perform op).2 with ⟨before, last, source, after, rfl, hsets, hafter⟩ |
      ⟨before, after, rfl, hbefore, hafter⟩
    · exact .inl ⟨op :: before, last, source, after, rfl, hsets, hafter⟩
    · rcases hbefore with rfl | ⟨earlier, rfl⟩
      · -- The rest does not touch the name, so it is up to the first operation.
        by_cases htouches : book.Touches op name
        · rcases sets_or_erase htouches with ⟨source, hsets⟩ | rfl
          · exact .inl ⟨[], op, source, after, rfl, hsets, hafter⟩
          · exact .inr ⟨[.erase name], after, rfl, .inr ⟨[], rfl⟩, hafter⟩
        · exact .inr ⟨[], op :: after, rfl, .inl rfl, htouches, hafter⟩
      · have hnext : book.run ((op :: earlier) ++ [.erase name]) =
            (book.perform op).2.run (earlier ++ [.erase name]) := rfl
        rw [← hnext] at hafter
        exact .inr ⟨(op :: earlier) ++ [.erase name], after, rfl, .inr ⟨op :: earlier, rfl⟩, hafter⟩

/-! ## Runs -/

/-- A compiled rule has the operators of its symbols as the table has them at the moment. -/
theorem bound_of_compile {rule : Rule} {symbol : String} (h : (book.compile source).1 = .ok rule)
    (hmem : Part.operator symbol ∈ rule.sequence) :
    rule.bound.get? (OperatorTable.key symbol) = book.operators.get? symbol := by
  obtain ⟨_, _, _, _, _, rfl⟩ := compile_eq_ok_iff.mp h
  exact OperatorTable.get?_bindings_of_mem hmem

theorem run_append_singleton (book : RuleBook) (before : List Operation) (op : Operation) :
    book.run (before ++ [op]) = ((book.run before).perform op).2 := by
  rw [run_append]
  rfl

theorem get?_of_erased (book : RuleBook) (earlier : List Operation) (name : RuleName) :
    (book.run (earlier ++ [.erase name])).rules.get? name = none := by
  rw [run_append_singleton]
  simp [perform, erase, SortedMap.get?_erase]

/-- **Rules are isolated from each other and from the table.** Take any run of a new book. Of a
name that was set to a text and not touched since, one sees what one saw right after it was set:
the text compiled with the operators of that moment. Of a name that was never set, or not since it
was removed, one sees nothing. One of the two is the case. So no operation on the operators or on
another name shows in a name. -/
theorem sight_of_run (book : RuleBook) (new : book.rules = .empty) (name : RuleName) :
    (∀ before op source after, (book.run before).Sets op name source →
      Untouched name (book.run (before ++ [op])) after →
      ∃ rule, ((book.run before).compile source).1 = .ok rule ∧
        (∀ symbol, Part.operator symbol ∈ rule.sequence →
          rule.bound.get? (OperatorTable.key symbol) =
            (book.run before).operators.get? symbol) ∧
        (book.run (before ++ [op])).sight name = rule.sight name ∧
        (book.run (before ++ op :: after)).sight name = rule.sight name) ∧
    (∀ before after, (before = [] ∨ ∃ earlier, before = earlier ++ [.erase name]) →
      Untouched name (book.run before) after →
      (book.run (before ++ after)).sight name = .nothing name) ∧
    (∀ ops,
      (∃ before op source after, ops = before ++ op :: after ∧
        (book.run before).Sets op name source ∧
        Untouched name (book.run (before ++ [op])) after) ∨
      (∃ before after, ops = before ++ after ∧
        (before = [] ∨ ∃ earlier, before = earlier ++ [.erase name]) ∧
        Untouched name (book.run before) after)) ∧
    (∀ ops op, op.name? ≠ some name →
      (book.run (ops ++ [op])).sight name = (book.run ops).sight name) := by
  refine ⟨?_, ?_, ?_, ?_⟩
  · intro before op source after hsets hafter
    obtain ⟨rule, hcompile, hget⟩ := get?_of_sets hsets
    rw [← run_append_singleton] at hget
    refine ⟨rule, hcompile, fun symbol hmem => bound_of_compile hcompile hmem, ?_, ?_⟩
    · rw [sight_eq, hget]
    · rw [List.append_cons, run_append, sight_eq, get?_of_untouched hafter, hget]
  · intro before after hbefore hafter
    rw [run_append, sight_eq, get?_of_untouched hafter]
    rcases hbefore with rfl | ⟨earlier, rfl⟩
    · rw [run, new, SortedMap.get?_empty]
    · rw [get?_of_erased]
  · exact fun ops => sets_last_or_never name ops book
  · intro ops op hname
    have hnot : ¬ (book.run ops).Touches op name := fun h => hname h.1
    rw [run_append_singleton, sight_eq, sight_eq, get?_of_not_touches hnot]

end Builder

/-- A rule outlives its operators: the table is changed and emptied, another name is set, and two
attempts on the name itself fail; the name shows what it showed. A name that was removed shows
nothing. -/
theorem sight_of_run_after_changes :
    (∃ rule, (({} : RuleBook).compile "[a] + [b]").1 = .ok rule ∧
      (RuleBook.run {} [.put (.name "1") "[a] + [b]", .renameOperator "+" "-" false,
        .put (.id 1) "[a] - [b]", .add (.name "1") "[a] - [b]", .clearOperators,
        .put (.name "1") "[a] - [b]"]).sight (.name "1") = rule.sight (.name "1")) ∧
    (RuleBook.run {} [.put (.id 1) "[a] - [b]", .erase (.id 1), .put (.id 1) "[a] -"]).sight
      (.id 1) = .nothing (.id 1) := by
  have hset (name : RuleName) := sight_of_run {} rfl name
  constructor
  · obtain ⟨rule, hcompile, _, _, hsight⟩ :=
      (hset (.name "1")).1 [] (.put (.name "1") "[a] + [b]") "[a] + [b]"
        [.renameOperator "+" "-" false, .put (.id 1) "[a] - [b]", .add (.name "1") "[a] - [b]",
          .clearOperators, .put (.name "1") "[a] - [b]"]
        (by decide +kernel) (by decide +kernel)
    exact ⟨rule, hcompile, hsight⟩
  · exact (hset (.id 1)).2.1 [.put (.id 1) "[a] - [b]", .erase (.id 1)] [.put (.id 1) "[a] -"]
      (.inr ⟨[.put (.id 1) "[a] - [b]"], rfl⟩) (by decide +kernel)

end RuleBook

end RuleLang
