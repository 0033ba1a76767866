import Mathlib.Data.List.Nodup
import RuleLang.Operator.MatcherSize
import RuleLang.Proofs.ActionBook.Run
import RuleLang.Proofs.RuleBook.Isolation

/-!
# The numbers of the actions

The rules of actions stand in one book with the rules of its owner, kept apart by nothing but their
numbers. Main statement (`numbers_of_run`): **no number is given out twice, and no rule but those
of the actions themselves is changed by an operation on actions**, whatever the owner had in the
book before and does with it in between, as long as the owner keeps away from numbers that are
held.

Three things carry this (`Numbered`): no two actions hold the same number, every number that is
held has a rule, and all of them are behind the next number. A number given out is at or above the
next one, and no rule has it.
-/

set_option autoImplicit false

namespace RuleLang.ActionBook

variable {actions : ActionBook} {op : Operation}
  {inputs inputs' : SortedMap RuleName (List Guarded)} {rules rules' : SortedMap RuleName Rule}
  {nextId id : Int} {input : RuleName} {action source : String}

/-! ## The numbers of one input and those of the others -/

theorem numbersOf_perm (inputs : SortedMap RuleName (List Guarded)) (input : RuleName) :
    (numbersOf inputs).Perm
      (((inputs.get? input).getD []).map Guarded.rule ++ numbersOf (inputs.erase input)) := by
  cases hlist : inputs.get? input with
  | none =>
    rw [SortedMap.erase_eq_self hlist]
    exact .refl _
  | some list => exact ((SortedMap.entries_perm hlist).map Prod.snd).flatMap_right _

theorem numbersOf_insertList_perm (inputs : SortedMap RuleName (List Guarded)) (input : RuleName)
    (list : List Guarded) :
    (numbersOf (inputs.insertList input list)).Perm
      (list.map Guarded.rule ++ numbersOf (inputs.erase input)) := by
  have h := numbersOf_perm (inputs.insertList input list) input
  rwa [SortedMap.getD_get?_insertList, if_pos Std.ReflCmp.compare_self,
    SortedMap.erase_insertList] at h

theorem rule_mem_numbers {guarded : Guarded} (h : guarded ∈ actions.guardedOf input) :
    guarded.rule ∈ actions.numbers := by
  refine (numbersOf_perm actions.inputs input).mem_iff.mpr (List.mem_append_left _ ?_)
  exact List.mem_map_of_mem h

theorem find?_of_ruleOf? (h : actions.ruleOf? input action = some id) :
    (actions.guardedOf input).find? (·.action == action) = some ⟨action, id⟩ := by
  obtain ⟨⟨action', id'⟩, hfind, rfl⟩ := Option.map_eq_some_iff.mp h
  obtain rfl : action' = action := by simpa using List.find?_some hfind
  exact hfind

theorem mem_numbers_of_ruleOf? (h : actions.ruleOf? input action = some id) :
    id ∈ actions.numbers :=
  rule_mem_numbers (List.mem_of_find?_eq_some (find?_of_ruleOf? h))

/-- Where no two actions hold the same number, a number tells the input and the action. -/
theorem eq_of_rule_eq {input' : RuleName} {guarded guarded' : Guarded}
    (h : actions.numbers.Nodup) (hmem : guarded ∈ actions.guardedOf input)
    (hmem' : guarded' ∈ actions.guardedOf input') (heq : guarded.rule = guarded'.rule) :
    input = input' ∧ guarded = guarded' := by
  have hsplit := (numbersOf_perm actions.inputs input).nodup_iff.mp h
  obtain ⟨hown, _, hothers⟩ := List.nodup_append.mp hsplit
  by_cases hinput : input = input'
  · subst hinput
    exact ⟨rfl, List.inj_on_of_nodup_map hown hmem hmem' heq⟩
  · have hget : (actions.inputs.erase input).get? input' = actions.inputs.get? input' := by
      rw [SortedMap.get?_erase, if_neg (by simpa using Ne.symm hinput)]
    have hother : guarded'.rule ∈ numbersOf (actions.inputs.erase input) := by
      refine (numbersOf_perm _ input').mem_iff.mpr (List.mem_append_left _ ?_)
      rw [hget]
      exact List.mem_map_of_mem hmem'
    exact absurd heq (hothers _ (List.mem_map_of_mem hmem) _ hother)

theorem numbersOf_added_perm (actions : ActionBook) (input : RuleName) (action : String)
    (id : Int) :
    (numbersOf (actions.inputs.insertList input (actions.guardedOf input ++ [⟨action, id⟩]))).Perm
      (id :: actions.numbers) := by
  refine (numbersOf_insertList_perm _ _ _).trans ?_
  rw [List.map_append, List.append_assoc]
  exact List.perm_middle.trans ((numbersOf_perm actions.inputs input).symm.cons id)

/-- The action that is removed from an input, and what is left. -/
theorem guardedOf_perm (h : actions.ruleOf? input action = some id) :
    (actions.guardedOf input).Perm (⟨action, id⟩ :: actions.left input action) := by
  obtain ⟨hthis, before, after, heq, hbefore⟩ :=
    List.find?_eq_some_iff_append.mp (find?_of_ruleOf? h)
  have hleft : actions.left input action = before ++ after := by
    rw [left, heq, List.eraseP_append_right _ (by simpa using hbefore),
      List.eraseP_cons_of_pos (p := fun guarded : Guarded => guarded.action == action) hthis]
  rw [hleft, heq]
  exact List.perm_middle

theorem numbersOf_erased_perm (h : actions.ruleOf? input action = some id) :
    actions.numbers.Perm
      (id :: numbersOf (actions.inputs.insertList input (actions.left input action))) := by
  refine (numbersOf_perm actions.inputs input).trans ?_
  refine (((guardedOf_perm h).map Guarded.rule).append_right _).trans ?_
  exact ((numbersOf_insertList_perm _ _ _).symm.cons id)

/-! ## What every operation keeps -/

/-- Actions with numbers of their own. -/
structure Numbered (rules : SortedMap RuleName Rule) (inputs : SortedMap RuleName (List Guarded))
    (nextId : Int) : Prop where
  nodup : (numbersOf inputs).Nodup
  cached : ∀ {id}, id ∈ numbersOf inputs → rules.contains (.id id) = true
  lt : ∀ {id}, id ∈ numbersOf inputs → id < nextId

def Sound (actions : ActionBook) : Prop :=
  Numbered actions.book.rules actions.inputs actions.nextId

theorem ofBook_sound (book : RuleBook) : (ofBook book).Sound where
  nodup := List.nodup_nil
  cached h := absurd h List.not_mem_nil
  lt h := absurd h List.not_mem_nil

namespace Numbered

theorem later {nextId' : Int} (h : Numbered rules inputs nextId) (hle : nextId ≤ nextId') :
    Numbered rules inputs nextId' where
  nodup := h.nodup
  cached := h.cached
  lt hmem := Int.lt_of_lt_of_le (h.lt hmem) hle

/-- Setting a rule takes none away. -/
theorem insert (h : Numbered rules inputs nextId) (name : RuleName) (rule : Rule) :
    Numbered (rules.insert name rule) inputs nextId where
  nodup := h.nodup
  cached hmem := by
    have hrule := h.cached hmem
    rw [SortedMap.contains] at hrule ⊢
    rw [SortedMap.get?_insert]
    split
    · rfl
    · exact hrule
  lt := h.lt

theorem added (h : Numbered rules inputs nextId) (hle : nextId ≤ id) (rule : Rule)
    (hperm : (numbersOf inputs').Perm (id :: numbersOf inputs)) :
    Numbered (rules.insert (.id id) rule) inputs' (id + 1) where
  nodup := by
    refine hperm.nodup_iff.mpr (List.nodup_cons.mpr ⟨fun hmem => ?_, h.nodup⟩)
    exact absurd (h.lt hmem) (Int.not_lt.mpr hle)
  cached hmem := by
    rcases List.mem_cons.mp (hperm.mem_iff.mp hmem) with rfl | hmem
    · simp [SortedMap.contains, SortedMap.get?_insert]
    · exact (h.insert (.id id) rule).cached hmem
  lt hmem := by
    rcases List.mem_cons.mp (hperm.mem_iff.mp hmem) with rfl | hmem
    · omega
    · have hlt := h.lt hmem
      omega

theorem erased (h : Numbered rules inputs nextId)
    (hperm : (numbersOf inputs).Perm (id :: numbersOf inputs')) :
    Numbered (rules.erase (.id id)) inputs' nextId := by
  obtain ⟨hnot, hnodup⟩ := List.nodup_cons.mp (hperm.nodup_iff.mp h.nodup)
  have hmem {other : Int} (hother : other ∈ numbersOf inputs') : other ∈ numbersOf inputs :=
    hperm.mem_iff.mpr (List.mem_cons_of_mem _ hother)
  refine ⟨hnodup, fun {other} hother => ?_, fun hother => h.lt (hmem hother)⟩
  have hne : RuleName.id other ≠ .id id := by
    rintro ⟨⟩
    exact hnot hother
  rw [SortedMap.contains, SortedMap.get?_erase, if_neg (by simpa using hne)]
  exact h.cached (hmem hother)

/-- Rules that no action holds do not matter. -/
theorem congr (h : Numbered rules inputs nextId)
    (hrules : ∀ id ∈ numbersOf inputs, rules'.get? (.id id) = rules.get? (.id id)) :
    Numbered rules' inputs nextId where
  nodup := h.nodup
  cached hmem := by
    rw [SortedMap.contains, hrules _ hmem]
    exact h.cached hmem
  lt := h.lt

end Numbered

theorem nextId_le_freeId (actions : ActionBook) : actions.nextId ≤ actions.freeId :=
  (leastFreeId_spec actions.book actions.nextId).start_le

section Builder

variable [MatcherBuilder]

/-- An owner's operation that is allowed leaves the rules of the actions alone. -/
theorem get?_of_allows {op : RuleBook.Operation} {name : RuleName}
    (hallows : actions.Allows (.book op)) (hname : actions.Holds name) :
    (actions.book.perform op).2.rules.get? name = actions.book.rules.get? name := by
  refine RuleBook.get?_of_not_touches fun htouches => ?_
  exact hallows name htouches.1 hname

/-- **Every operation that is allowed keeps the numbers in order.** -/
theorem perform_sound (actions : ActionBook) (op : Operation) (h : actions.Sound)
    (hallows : actions.Allows op) : (actions.perform op).2.Sound := by
  have heffect := actions.perform_effect op
  unfold Sound
  generalize (actions.perform op).1 = answer at heffect
  generalize (actions.perform op).2.book.rules = rules at heffect ⊢
  generalize (actions.perform op).2.inputs = inputs at heffect ⊢
  generalize (actions.perform op).2.nextId = nextId at heffect ⊢
  cases heffect with
  | added _ _ => exact h.added actions.nextId_le_freeId _ (numbersOf_added_perm ..)
  | notAdded _ _ => exact h.later actions.nextId_le_freeId
  | updated _ _ => exact h.insert _ _
  | erased hrule => exact h.erased (numbersOf_erased_perm hrule)
  | onBook op => exact h.congr fun id hid => get?_of_allows hallows ⟨id, hid, rfl⟩
  | taken _ _ | notUpdated _ _ | missing _ _ | absent _ => exact h

/-! ## Numbers that are given out -/

/-- The number that an operation gives to a new action. -/
def issue? (actions : ActionBook) (op : Operation) : Option Int :=
  match op with
  | .add input action _ =>
    if (actions.perform op).1.isOk then (actions.perform op).2.ruleOf? input action else none
  | _ => none

/-- The numbers that a run gives out, in that order. -/
def issued : ActionBook → List Operation → List Int
  | _, [] => []
  | actions, op :: ops => (actions.issue? op).toList ++ issued (actions.perform op).2 ops

/-- An operation gives out the least free number and goes on behind it, or it gives out none. -/
inductive Issue (actions : ActionBook) : Option Int → List Int → Int → Prop where
  | one {numbers : List Int} : numbers.Perm (actions.freeId :: actions.numbers) →
      Issue actions (some actions.freeId) numbers (actions.freeId + 1)
  | none {numbers : List Int} {nextId : Int} : numbers ⊆ actions.numbers →
      actions.nextId ≤ nextId → Issue actions none numbers nextId

omit [MatcherBuilder] in
theorem Issue.eq_freeId {given : Option Int} {numbers : List Int} {nextId : Int}
    (h : Issue actions given numbers nextId) (hid : given = some id) : id = actions.freeId := by
  cases h with
  | one _ => exact (Option.some.inj hid).symm
  | none _ _ => exact absurd hid (by simp)

omit [MatcherBuilder] in
/-- An action that was added has the number it was given. -/
theorem ruleOf?_of_added {after : ActionBook} (hrule : actions.ruleOf? input action = none)
    (hinputs : after.inputs =
      actions.inputs.insertList input (actions.guardedOf input ++ [⟨action, id⟩])) :
    after.ruleOf? input action = some id := by
  have hbefore : (actions.guardedOf input).find? (·.action == action) = none :=
    Option.map_eq_none_iff.mp hrule
  rw [ruleOf?, guardedOf, hinputs, SortedMap.getD_get?_insertList,
    if_pos Std.ReflCmp.compare_self, List.find?_append, hbefore, Option.none_or,
    List.find?_singleton, if_pos (beq_self_eq_true action), Option.map_some]

/-- **A number is given out by adding an action, and by nothing else.** -/
theorem perform_issue (actions : ActionBook) (op : Operation) :
    Issue actions (actions.issue? op) (actions.perform op).2.numbers
      (actions.perform op).2.nextId := by
  have heffect := actions.perform_effect op
  unfold issue? numbers
  generalize (actions.perform op).2 = after at heffect ⊢
  generalize (actions.perform op).1 = answer at heffect ⊢
  generalize after.book.rules = rules at heffect
  generalize hinputs : after.inputs = inputs at heffect ⊢
  generalize after.nextId = nextId at heffect ⊢
  cases heffect with
  | @added input action _ _ hrule _ =>
    have hok : (Except.ok () : Except RuleError Unit).isOk = true := rfl
    show Issue actions (if _ then after.ruleOf? input action else none) _ _
    rw [if_pos hok, ruleOf?_of_added hrule hinputs]
    exact .one (numbersOf_added_perm ..)
  | notAdded _ _ => exact .none (List.Subset.refl _) actions.nextId_le_freeId
  | erased hrule =>
    have hfewer := (numbersOf_erased_perm hrule).symm.subset
    exact .none (fun _ h => hfewer (List.mem_cons_of_mem _ h)) (Int.le_refl _)
  | taken _ _ | updated _ _ | notUpdated _ _ | missing _ _ | absent _ | onBook _ =>
    exact .none (List.Subset.refl _) (Int.le_refl _)

/-- What a run gives out is at or above the next number, in ascending order. -/
theorem issued_spec {ops : List Operation} : ∀ {actions : ActionBook},
    (∀ id ∈ issued actions ops, actions.nextId ≤ id) ∧
      (issued actions ops).Pairwise (· < ·) := by
  induction ops with
  | nil => exact fun {_} => ⟨fun _ h => absurd h List.not_mem_nil, .nil⟩
  | cons op ops ih =>
    intro actions
    have hissue := actions.perform_issue op
    obtain ⟨hle, hpairwise⟩ := @ih (actions.perform op).2
    rw [issued]
    generalize actions.issue? op = given at hissue ⊢
    generalize hnext : (actions.perform op).2.nextId = nextId at hissue hle
    cases hissue with
    | one _ =>
      have hfree := actions.nextId_le_freeId
      refine ⟨fun id hid => ?_, List.pairwise_cons.mpr ⟨fun id hid => ?_, hpairwise⟩⟩
      · rcases List.mem_cons.mp hid with rfl | hid
        · exact hfree
        · have := hle id hid
          omega
      · have := hle id hid
        omega
    | none _ hmono => exact ⟨fun id hid => Int.le_trans hmono (hle id hid), hpairwise⟩

/-- All numbers that are held at the end were held at the start or given out. -/
theorem numbers_subset {ops : List Operation} : ∀ {actions : ActionBook},
    (actions.run ops).numbers ⊆ issued actions ops ++ actions.numbers := by
  induction ops with
  | nil => exact fun {_} => List.Subset.refl _
  | cons op ops ih =>
    intro actions id hid
    have hissue := actions.perform_issue op
    have hmem := ih hid
    rw [issued]
    generalize actions.issue? op = given at hissue ⊢
    generalize (actions.perform op).2.numbers = numbers at hissue hmem
    generalize (actions.perform op).2.nextId = nextId at hissue
    rcases List.mem_append.mp hmem with hmem | hmem
    · exact List.mem_append_left _ (List.mem_append_right _ hmem)
    · cases hissue with
      | one hperm =>
        rcases List.mem_cons.mp (hperm.mem_iff.mp hmem) with rfl | hmem
        · exact List.mem_append_left _ List.mem_cons_self
        · exact List.mem_append_right _ hmem
      | none hsubset _ => exact List.mem_append_right _ (hsubset hmem)

end Builder

/-! ## Rules of the owner -/

/-- The rule that the owner has under a name. A rule that guards an action is not the owner's. -/
def owned (actions : ActionBook) (name : RuleName) : Option Rule :=
  if actions.Holds name then none else actions.book.rules.get? name

/-- What a run leaves of the rules of the owner if nobody but the owner ever changes them: under
the name that the owner turns to there is afterwards what the rule book then has. -/
def leftByOwner [MatcherBuilder] :
    ActionBook → (RuleName → Option Rule) → List Operation → RuleName → Option Rule
  | _, rules, [] => rules
  | actions, rules, op :: ops =>
    leftByOwner (actions.perform op).2
      (fun name =>
        if op.turnsTo? = some name then (actions.perform op).2.book.rules.get? name
        else rules name)
      ops

theorem owned_of_not_holds {name : RuleName} (h : ¬ actions.Holds name) :
    actions.owned name = actions.book.rules.get? name := if_neg h

theorem owned_of_holds {name : RuleName} (h : actions.Holds name) : actions.owned name = none :=
  if_pos h

theorem owned_of_no_rule {name : RuleName} (h : actions.book.rules.get? name = none) :
    actions.owned name = none := by
  rw [owned, h, ite_self]

theorem owned_congr {actions' : ActionBook} {name : RuleName}
    (hrules : actions'.book.rules.get? name = actions.book.rules.get? name)
    (hholds : actions'.Holds name ↔ actions.Holds name) :
    actions'.owned name = actions.owned name := by
  simp only [owned, hrules, hholds]

theorem owned_ofBook (book : RuleBook) (name : RuleName) :
    (ofBook book).owned name = book.rules.get? name :=
  owned_of_not_holds fun ⟨_, hid, _⟩ => absurd hid List.not_mem_nil

/-- One more number that is held, or one less. -/
theorem holds_iff_of_perm {actions' : ActionBook} {name : RuleName}
    (h : actions'.numbers.Perm (id :: actions.numbers)) :
    actions'.Holds name ↔ name = .id id ∨ actions.Holds name := by
  simp only [Holds, h.mem_iff, List.mem_cons, or_and_right, exists_or, exists_eq_left]

theorem holds_congr {actions' : ActionBook} (hinputs : actions'.inputs = actions.inputs)
    (name : RuleName) : actions'.Holds name ↔ actions.Holds name := by
  rw [Holds, numbers, hinputs]
  exact Iff.rfl

section Builder

variable [MatcherBuilder]

/-- **Nobody but the owner changes a rule of the owner.** A new action takes a number that has no
rule, and an action that goes leaves none behind. -/
theorem owned_perform_of_ne {name : RuleName} (hname : op.turnsTo? ≠ some name) :
    (actions.perform op).2.owned name = actions.owned name := by
  have heffect := actions.perform_effect op
  generalize (actions.perform op).2 = after at heffect ⊢
  generalize (actions.perform op).1 = answer at heffect
  generalize hrules : after.book.rules = rules at heffect
  generalize hinputs : after.inputs = inputs at heffect
  generalize after.nextId = nextId at heffect
  cases heffect with
  | added _ _ =>
    have hperm : after.numbers.Perm (actions.freeId :: actions.numbers) := by
      rw [numbers, hinputs]
      exact numbersOf_added_perm ..
    by_cases hnew : name = .id actions.freeId
    · have hnone : actions.book.rules.get? name = none := by
        rw [hnew]
        exact Option.isNone_iff_eq_none.mp (Option.isSome_eq_false_iff.mp actions.contains_freeId)
      rw [owned_of_holds ((holds_iff_of_perm hperm).mpr (.inl hnew)), owned_of_no_rule hnone]
    · refine owned_congr ?_ ((holds_iff_of_perm hperm).trans (or_iff_right hnew))
      rw [hrules, SortedMap.get?_insert, if_neg (by simpa using hnew)]
  | @updated _ _ _ id _ hid _ =>
    by_cases hset : name = .id id
    · have hheld : actions.Holds name := ⟨id, mem_numbers_of_ruleOf? hid, hset⟩
      rw [owned_of_holds ((holds_congr hinputs name).mpr hheld), owned_of_holds hheld]
    · refine owned_congr ?_ (holds_congr hinputs name)
      rw [hrules, SortedMap.get?_insert, if_neg (by simpa using hset)]
  | @erased _ _ id hid =>
    have hperm : actions.numbers.Perm (id :: after.numbers) := by
      rw [show after.numbers = numbersOf after.inputs from rfl, hinputs]
      exact numbersOf_erased_perm hid
    by_cases hgone : name = .id id
    · have hnone : after.book.rules.get? name = none := by
        rw [hrules, SortedMap.get?_erase, if_pos (by simpa using hgone)]
      rw [owned_of_no_rule hnone, owned_of_holds ((holds_iff_of_perm hperm).mpr (.inl hgone))]
    · refine owned_congr ?_ ((holds_iff_of_perm hperm).trans (or_iff_right hgone)).symm
      rw [hrules, SortedMap.get?_erase, if_neg (by simpa using hgone)]
  | onBook owned =>
    refine owned_congr ?_ (holds_congr hinputs name)
    rw [hrules, RuleBook.get?_of_not_touches fun htouches => hname htouches.1]
  | notAdded _ _ | taken _ _ | notUpdated _ _ | missing _ _ | absent _ =>
    exact owned_congr (by rw [hrules]) (holds_congr hinputs name)

theorem owned_perform (hallows : actions.Allows op) (name : RuleName) :
    (actions.perform op).2.owned name =
      if op.turnsTo? = some name then (actions.perform op).2.book.rules.get? name
      else actions.owned name := by
  by_cases hname : op.turnsTo? = some name
  · have hnot : ¬ (actions.perform op).2.Holds name := by
      cases op with
      | book owned => exact hallows name hname
      | add _ _ _ | update _ _ _ | erase _ _ => exact absurd hname (by simp [Operation.turnsTo?])
    rw [if_pos hname, owned_of_not_holds hnot]
  · rw [if_neg hname, owned_perform_of_ne hname]

theorem owned_run {ops : List Operation} : ∀ {actions : ActionBook}, Considerate actions ops →
    ∀ name, (actions.run ops).owned name = leftByOwner actions actions.owned ops name := by
  induction ops with
  | nil => exact fun _ _ => rfl
  | cons op ops ih =>
    intro actions hops name
    rw [leftByOwner, ← funext (owned_perform hops.1)]
    exact ih hops.2 name

/-! ## Runs -/

/-- **The numbers of actions never meet anything else.** A rule book, whatever is in it, is put to
use for actions, and its owner keeps away from the numbers that are held. After any such run:

* no two actions hold the same number, and each number that is held has a rule;
* no number was given out twice, not even one whose action is gone, and what is held was given out;
* looking for a free number ends, with the least one that has no rule, and that is the number the
  next action gets;
* under every name that no action holds there is what the owner left there, and under a name that
  an action holds the owner left nothing;
* an operation on actions changes nothing that is the owner's. -/
theorem numbers_of_run (book : RuleBook) (ops : List Operation)
    (considerate : Considerate (ofBook book) ops) :
    let actions := (ofBook book).run ops
    (actions.numbers.Nodup ∧
      ∀ id ∈ actions.numbers, actions.book.contains (.id id) = true) ∧
    ((issued (ofBook book) ops).Pairwise (· < ·) ∧ actions.numbers ⊆ issued (ofBook book) ops) ∧
    ((∀ id, Search actions.book actions.nextId id ↔ id = actions.freeId) ∧
      LeastFree (Taken actions.book) actions.nextId actions.freeId ∧
      ∀ op id, actions.issue? op = some id → id = actions.freeId) ∧
    ((∀ name, ¬ actions.Holds name →
        actions.book.rules.get? name = leftByOwner (ofBook book) book.rules.get? ops name) ∧
      ∀ name, actions.Holds name → leftByOwner (ofBook book) book.rules.get? ops name = none) ∧
    (∀ op, op.turnsTo? = none → (actions.perform op).2.owned = actions.owned) := by
  intro actions
  have hsound : actions.Sound :=
    run_invariant perform_sound considerate (ofBook_sound book)
  have howned (name : RuleName) :
      actions.owned name = leftByOwner (ofBook book) book.rules.get? ops name := by
    rw [← funext (owned_ofBook book)]
    exact owned_run considerate name
  refine ⟨⟨hsound.nodup, fun _ => hsound.cached⟩, ⟨issued_spec.2, fun id hid => ?_⟩,
    ⟨fun _ => search_iff, leastFreeId_spec .., fun op id hid => ?_⟩,
    ⟨fun name hname => ?_, fun name hname => ?_⟩, fun op hop => ?_⟩
  · rcases List.mem_append.mp (numbers_subset hid) with hid | hid
    · exact hid
    · exact absurd hid List.not_mem_nil
  · exact (actions.perform_issue op).eq_freeId hid
  · rw [← howned, owned_of_not_holds hname]
  · rw [← howned, owned_of_holds hname]
  · funext name
    exact owned_perform_of_ne (by simp [hop])

end Builder

/-- A book with numbered rules of its owner is put to use. An action is added, one is refused, one
is added and the first is removed; the owner takes the number that became free and gives up one of
their own; the next action gets neither. -/
theorem numbers_of_run_adopted :
    let book := RuleBook.run {} [.put (.id 0) "[a] = 1", .put (.id 2) "[b] = 1"]
    let ops : List Operation :=
      [.add (.name "age") "show" "[a] > 1", .add (.name "age") "hide" "[a] >",
        .add (.name "age") "hide" "[b] > 1", .erase (.name "age") "show",
        .book (.put (.id 1) "[c] = 1"), .book (.erase (.id 2)),
        .add (.name "name") "show" "[d] > 1"]
    Considerate (ofBook book) ops ∧ ((ofBook book).run ops).numbers = [3, 4] ∧
      issued (ofBook book) ops = [1, 3, 4] ∧ (issued (ofBook book) ops).Pairwise (· < ·) ∧
      (((ofBook book).run ops).book.contains (.id 1) = true ∧
        ((ofBook book).run ops).book.rules.get? (.id 1) =
          leftByOwner (ofBook book) book.rules.get? ops (.id 1)) := by
  intro book ops
  have considerate : Considerate (ofBook book) ops := by decide +kernel
  obtain ⟨_, ⟨hissued, _⟩, _, ⟨hfree, _⟩, _⟩ := numbers_of_run book ops considerate
  exact ⟨considerate, by decide +kernel, by decide +kernel, hissued,
    by decide +kernel, hfree (.id 1) (by decide +kernel)⟩

end RuleLang.ActionBook
