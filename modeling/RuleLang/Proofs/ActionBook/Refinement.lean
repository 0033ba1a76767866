import Mathlib.Data.List.Forall2
import RuleLang.Proofs.ActionBook.Numbers
import RuleLang.Proofs.ActionBook.Registry

/-!
# What actions are

An action book keeps actions in one place, their rules in a rule book under numbers, and the next
number beside both. **To whoever uses it, it is a registry**: inputs with ordered lists of actions
and their rules (`run_refines`). Every answer is the one the registry gives, every operation does
to the registry what it says, and what the owner does with the rule book in between, be it to the
operators that the rules were compiled with, is not seen.

The action book represents the registry as long as each number leads to the rule of its entry
(`Represents`). An operation changes the rule of one number at most; that this is the number of one
action only is known from `Numbered`.
-/

set_option autoImplicit false

namespace RuleLang.ActionBook

variable {actions : ActionBook} {registry : Registry} {input : RuleName} {action : String}
  {rules rules' : SortedMap RuleName Rule} {list : List Guarded} {entries : List Entry}

/-! ## Representing entries -/

/-- Whether a guarded action stands for an entry: its number leads to the rule. -/
structure StandsFor (rules : SortedMap RuleName Rule) (guarded : Guarded) (entry : Entry) :
    Prop where
  action : guarded.action = entry.action
  rule : rules.get? (.id guarded.rule) = some entry.rule

/-- An action book and the registry that it represents. -/
structure Represents (actions : ActionBook) (registry : Registry) : Prop where
  entries : ∀ input,
    List.Forall₂ (StandsFor actions.book.rules) (actions.guardedOf input)
      (registry.entriesOf input)
  nonempty : ∀ input, actions.inputs.contains input = !(actions.guardedOf input).isEmpty

theorem ofBook_represents (book : RuleBook) : Represents (ofBook book) .empty where
  entries _ := .nil
  nonempty _ := rfl

theorem map_action_eq (h : List.Forall₂ (StandsFor rules) list entries) :
    list.map Guarded.action = entries.map Entry.action := by
  induction h with
  | nil => rfl
  | cons hhead _ ih => rw [List.map_cons, List.map_cons, hhead.action, ih]

/-- What is true of each pair is true of the lists after each entry is changed. -/
theorem forall₂_map {f : Entry → Entry} (h : List.Forall₂ (StandsFor rules) list entries)
    (hf : ∀ guarded ∈ list, ∀ entry, StandsFor rules guarded entry →
      StandsFor rules' guarded (f entry)) :
    List.Forall₂ (StandsFor rules') list (entries.map f) := by
  induction h with
  | nil => exact .nil
  | cons hhead _ ih =>
    refine .cons (hf _ List.mem_cons_self _ hhead) (ih fun guarded hmem => ?_)
    exact hf guarded (List.mem_cons_of_mem _ hmem)

/-- Entries are represented by the rules of their own numbers only. -/
theorem forall₂_congr (h : List.Forall₂ (StandsFor rules) list entries)
    (hrules : ∀ guarded ∈ list,
      rules'.get? (.id guarded.rule) = rules.get? (.id guarded.rule)) :
    List.Forall₂ (StandsFor rules') list entries := by
  have hsame := forall₂_map (f := id) h fun guarded hmem entry hentry =>
    ⟨hentry.action, (hrules guarded hmem).trans hentry.rule⟩
  rwa [List.map_id] at hsame

theorem find?_related (h : List.Forall₂ (StandsFor rules) list entries) (action : String) :
    Option.Rel (StandsFor rules) (list.find? (·.action == action))
      (entries.find? (·.action == action)) := by
  induction h with
  | nil => exact .none
  | cons hhead _ ih =>
    rw [List.find?_cons, List.find?_cons, hhead.action]
    split
    · exact .some hhead
    · exact ih

/-! ## Answers -/

theorem Represents.actionsOf_eq (h : Represents actions registry) (input : RuleName) :
    actions.actionsOf input = registry.actionsOf input :=
  map_action_eq (h.entries input)

theorem Represents.contains_eq (h : Represents actions registry) (input : RuleName) :
    actions.inputs.contains input = registry.inputs.contains input := by
  have hentries := h.entries input
  rw [h.nonempty, registry.contains_eq]
  generalize actions.guardedOf input = list at hentries ⊢
  generalize registry.entriesOf input = entries at hentries ⊢
  cases hentries <;> rfl

theorem Represents.inputNames_eq (h : Represents actions registry) :
    actions.inputNames = registry.inputNames :=
  SortedMap.keys_eq_of_contains h.contains_eq

theorem ruleOf?_eq_none_iff : actions.ruleOf? input action = none ↔
    action ∉ actions.actionsOf input := by
  simp [ruleOf?, actionsOf]

theorem Represents.not_mem_actionsOf (h : Represents actions registry)
    (hrule : actions.ruleOf? input action = none) : action ∉ registry.actionsOf input := by
  rw [← h.actionsOf_eq]
  exact ruleOf?_eq_none_iff.mp hrule

theorem Represents.mem_actionsOf {id : Int} (h : Represents actions registry)
    (hrule : actions.ruleOf? input action = some id) : action ∈ registry.actionsOf input := by
  rw [← h.actionsOf_eq]
  exact List.mem_map_of_mem (List.mem_of_find?_eq_some (find?_of_ruleOf? hrule))

theorem Represents.absence_eq {e : RuleError} (h : Represents actions registry)
    (hid : actions.ruleOf input action = .error e) :
    actions.ruleOf? input action = none ∧ e = registry.absence input action := by
  unfold ruleOf at hid
  cases hrule : actions.ruleOf? input action with
  | some id => simp [hrule] at hid
  | none =>
    rw [hrule] at hid
    unfold Registry.absence
    rw [← h.contains_eq]
    refine ⟨rfl, ?_⟩
    split <;> simp_all

theorem Represents.fields_eq (h : Represents actions registry) (input : RuleName)
    (action : String) : actions.fields input action = registry.fields input action := by
  have hfind := find?_related (h.entries input) action
  unfold fields ruleOf ruleOf? Registry.fields Registry.absence
  rw [← h.contains_eq]
  generalize (actions.guardedOf input).find? (·.action == action) = guarded? at hfind ⊢
  generalize (registry.entriesOf input).find? (·.action == action) = entry? at hfind ⊢
  cases hfind with
  | none => simp only [Option.map_none]; split <;> rfl
  | some hstands =>
    simp only [Option.map_some, bind, Except.bind, RuleBook.fields, RuleBook.rule, hstands.rule]
    rfl

theorem isDue_eq {guarded : Guarded} {entry : Entry}
    (h : StandsFor actions.book.rules guarded entry) (input : RuleName) (record : Record) :
    actions.isDue input record guarded =
      match entry.failure? input record with
      | some e => .error e
      | none => .ok (entry.triggers record) := by
  have hsight : actions.book.sight (.id guarded.rule) = entry.rule.sight (.id guarded.rule) := by
    rw [RuleBook.sight_eq, h.rule]
  have hvalue := congrFun (congrArg Sight.value hsight) record
  have hfields := congrArg Sight.fields hsight
  simp only [RuleBook.sight, Rule.sight] at hvalue hfields
  unfold isDue Entry.failure? Entry.triggers
  rw [hvalue, hfields]
  cases entry.rule.evaluate record with
  | ok value => rfl
  | error cause =>
    simp only [Except.mapError, bind, Except.bind, h.action]
    split <;> rfl

theorem dueAmong_eq (h : List.Forall₂ (StandsFor actions.book.rules) list entries)
    (input : RuleName) (record : Record) :
    actions.dueAmong input record list =
      match entries.findSome? (Entry.failure? input record) with
      | some e => .error e
      | none => .ok ((entries.filter (Entry.triggers record)).map Entry.action) := by
  induction h with
  | nil => rfl
  | cons hhead _ ih =>
    rw [dueAmong, isDue_eq hhead, ih, List.findSome?_cons, List.filter_cons, hhead.action]
    cases Entry.failure? input record _ with
    | some e => rfl
    | none =>
      simp only [bind, Except.bind]
      cases List.findSome? (Entry.failure? input record) _ with
      | some e => rfl
      | none =>
        simp only [Except.ok.injEq]
        split <;> rfl

theorem Represents.evaluate_eq (h : Represents actions registry) (input : RuleName)
    (record : Record) : actions.evaluate input record = registry.evaluate input record :=
  dueAmong_eq (h.entries input) input record

/-! ## Changes -/

/-- The entry of an action is the only one that its number leads to. -/
theorem rule_eq_iff {input' : RuleName} {id : Int} (hsound : actions.Sound)
    (h : Represents actions registry) (hid : actions.ruleOf? input action = some id)
    {guarded : Guarded} (hmem : guarded ∈ actions.guardedOf input') :
    guarded.rule = id ↔ input' = input ∧ guarded.action = action := by
  have hthis := List.mem_of_find?_eq_some (find?_of_ruleOf? hid)
  constructor
  · intro hrule
    obtain ⟨rfl, rfl⟩ := eq_of_rule_eq hsound.nodup hmem hthis hrule
    exact ⟨rfl, rfl⟩
  · rintro ⟨rfl, haction⟩
    have hnodup : ((actions.guardedOf input').map Guarded.action).Nodup := by
      rw [map_action_eq (h.entries input')]
      exact registry.nodup_actionsOf input'
    rw [List.inj_on_of_nodup_map hnodup hmem hthis haction]

/-- Without two entries of one action, removing the first is removing all. -/
theorem eraseP_eq_filter : ∀ {list : List Guarded}, (list.map Guarded.action).Nodup →
    list.eraseP (·.action == action) = list.filter (·.action != action) := by
  intro list
  induction list with
  | nil => exact fun _ => rfl
  | cons guarded list ih =>
    intro hnodup
    obtain ⟨hnot, hnodup⟩ := List.nodup_cons.mp hnodup
    by_cases haction : guarded.action = action
    · have hothers : list.filter (·.action != action) = list := by
        refine List.filter_eq_self.mpr fun other hother => ?_
        have hne : other.action ≠ action := by
          rintro rfl
          exact hnot (haction ▸ List.mem_map_of_mem hother)
        simpa using hne
      rw [List.eraseP_cons_of_pos (by simpa using haction),
        List.filter_cons_of_neg (by simpa using haction), hothers]
    · rw [List.eraseP_cons_of_neg (by simpa using haction),
        List.filter_cons_of_pos (by simpa using haction), ih hnodup]

/-- The entries of one input are set, those of the others stay. -/
theorem Represents.withEntries {after : ActionBook} {nodup : (entries.map Entry.action).Nodup}
    (hnonempty : ∀ other, after.inputs.contains other = !(after.guardedOf other).isEmpty)
    (hthis : List.Forall₂ (StandsFor after.book.rules) (after.guardedOf input) entries)
    (hothers : ∀ other, other ≠ input →
      List.Forall₂ (StandsFor after.book.rules) (after.guardedOf other)
        (registry.entriesOf other)) :
    Represents after (registry.withEntries input entries nodup) where
  entries other := by
    rw [Registry.entriesOf_withEntries]
    split
    · next heq => exact Std.LawfulEqOrd.eq_of_compare heq ▸ hthis
    · next hne => exact hothers other (by simpa using hne)
  nonempty := hnonempty

theorem guardedOf_congr {after : ActionBook} (hinputs : after.inputs = actions.inputs)
    (input : RuleName) : after.guardedOf input = actions.guardedOf input := by
  rw [guardedOf, hinputs]
  rfl

theorem guardedOf_insertList {after : ActionBook}
    (hinputs : after.inputs = actions.inputs.insertList input list) (other : RuleName) :
    after.guardedOf other =
      if compare other input = .eq then list else actions.guardedOf other := by
  rw [guardedOf, hinputs, SortedMap.getD_get?_insertList]
  rfl

theorem nonempty_insertList {after : ActionBook} (h : Represents actions registry)
    (hinputs : after.inputs = actions.inputs.insertList input list) (other : RuleName) :
    after.inputs.contains other = !(after.guardedOf other).isEmpty := by
  rw [guardedOf_insertList hinputs, hinputs, SortedMap.contains_insertList, h.nonempty]
  split <;> rfl

/-- What does not concern the actions leaves the registry as it is. -/
theorem same_represents {after : ActionBook} (h : Represents actions registry)
    (hrules : ∀ name, actions.Holds name →
      after.book.rules.get? name = actions.book.rules.get? name)
    (hinputs : after.inputs = actions.inputs) : Represents after registry where
  entries input := by
    rw [guardedOf_congr hinputs]
    refine forall₂_congr (h.entries input) fun guarded hmem => ?_
    exact hrules _ ⟨guarded.rule, rule_mem_numbers hmem, rfl⟩
  nonempty input := by
    rw [guardedOf_congr hinputs, hinputs, h.nonempty]

theorem added_represents {after : ActionBook} {rule : Rule} (hsound : actions.Sound)
    (h : Represents actions registry)
    (hrules : after.book.rules = actions.book.rules.insert (.id actions.freeId) rule)
    (hinputs : after.inputs =
      actions.inputs.insertList input (actions.guardedOf input ++ [⟨action, actions.freeId⟩]))
    (hnot : action ∉ registry.actionsOf input) :
    Represents after (registry.withEntries input (registry.entriesOf input ++ [⟨action, rule⟩])
      (Registry.nodup_append hnot rule)) := by
  have hsame (other : RuleName) : List.Forall₂ (StandsFor after.book.rules)
      (actions.guardedOf other) (registry.entriesOf other) := by
    refine forall₂_congr (h.entries other) fun guarded hmem => ?_
    have hlt := hsound.lt (rule_mem_numbers hmem)
    have hle := actions.nextId_le_freeId
    have hne : RuleName.id guarded.rule ≠ .id actions.freeId := by
      rw [ne_eq, RuleName.id.injEq]
      omega
    rw [hrules, SortedMap.get?_insert, if_neg (by simpa using hne)]
  have hnew : StandsFor after.book.rules ⟨action, actions.freeId⟩ ⟨action, rule⟩ :=
    ⟨rfl, by simp [hrules, SortedMap.get?_insert]⟩
  refine .withEntries (nonempty_insertList h hinputs) ?_ fun other hne => ?_
  · rw [guardedOf_insertList hinputs, if_pos Std.ReflCmp.compare_self]
    exact List.rel_append (hsame input) (.cons hnew .nil)
  · rw [guardedOf_insertList hinputs, if_neg (by simpa using hne)]
    exact hsame other

theorem updated_represents {after : ActionBook} {id : Int} {rule : Rule} (hsound : actions.Sound)
    (h : Represents actions registry) (hid : actions.ruleOf? input action = some id)
    (hrules : after.book.rules = actions.book.rules.insert (.id id) rule)
    (hinputs : after.inputs = actions.inputs) :
    Represents after (registry.withEntries input
      ((registry.entriesOf input).map (Entry.setRule action rule))
      (registry.nodup_setRule input action rule)) := by
  refine .withEntries (fun other => ?_) ?_ fun other hother => ?_
  · rw [guardedOf_congr hinputs, hinputs, h.nonempty]
  · rw [guardedOf_congr hinputs]
    refine forall₂_map (h.entries input) fun guarded hmem entry hstands => ?_
    have hiff := rule_eq_iff hsound h hid hmem
    refine ⟨hstands.action.trans (Entry.setRule_action action rule entry).symm, ?_⟩
    rw [hrules, SortedMap.get?_insert, Entry.setRule, ← hstands.action]
    by_cases haction : guarded.action = action
    · rw [if_pos haction, if_pos (by simpa using hiff.mpr ⟨rfl, haction⟩)]
    · rw [if_neg haction, if_neg (by simpa using fun hrule => haction (hiff.mp hrule).2),
        hstands.rule]
  · rw [guardedOf_congr hinputs]
    refine forall₂_congr (h.entries other) fun guarded hmem => ?_
    have hne : guarded.rule ≠ id := fun hrule =>
      hother ((rule_eq_iff hsound h hid hmem).mp hrule).1
    rw [hrules, SortedMap.get?_insert, if_neg (by simpa using hne)]

theorem erased_represents {after : ActionBook} {id : Int} (hsound : actions.Sound)
    (h : Represents actions registry) (hid : actions.ruleOf? input action = some id)
    (hrules : after.book.rules = actions.book.rules.erase (.id id))
    (hinputs : after.inputs = actions.inputs.insertList input (actions.left input action)) :
    Represents after (registry.erase input action) := by
  have hsame {other : RuleName} {guarded : Guarded} (hmem : guarded ∈ actions.guardedOf other)
      (hne : ¬ (other = input ∧ guarded.action = action)) :
      after.book.rules.get? (.id guarded.rule) = actions.book.rules.get? (.id guarded.rule) := by
    have hrule := (rule_eq_iff hsound h hid hmem).not.mpr hne
    rw [hrules, SortedMap.get?_erase, if_neg (by simpa using hrule)]
  have hnodup : ((actions.guardedOf input).map Guarded.action).Nodup := by
    rw [map_action_eq (h.entries input)]
    exact registry.nodup_actionsOf input
  refine .withEntries (nonempty_insertList h hinputs) ?_ fun other hne => ?_
  · rw [guardedOf_insertList hinputs, if_pos Std.ReflCmp.compare_self, left,
      eraseP_eq_filter hnodup]
    refine forall₂_congr (List.rel_filter ?_ (h.entries input)) fun guarded hmem => ?_
    · intro guarded entry hstands
      simp only [hstands.action]
    · obtain ⟨hmem, haction⟩ := List.mem_filter.mp hmem
      exact hsame hmem fun heq => by simp [heq.2] at haction
  · rw [guardedOf_insertList hinputs, if_neg (by simpa using hne)]
    exact forall₂_congr (h.entries other) fun guarded hmem => hsame hmem fun heq => hne heq.1

/-- An action that is not there is not removed. -/
theorem erase_represents_of_not_mem (h : Represents actions registry)
    (hnot : action ∉ registry.actionsOf input) :
    Represents actions (registry.erase input action) := by
  have hall : (registry.entriesOf input).filter (·.action != action) =
      registry.entriesOf input := by
    refine List.filter_eq_self.mpr fun entry hmem => ?_
    have hne : entry.action ≠ action := by
      rintro rfl
      exact hnot (List.mem_map_of_mem hmem)
    simpa using hne
  refine .withEntries h.nonempty ?_ fun other _ => h.entries other
  rw [hall]
  exact h.entries input

section Builder

variable [MatcherBuilder]

/-- **Every operation that is allowed does to the registry what it says**, and answers so. -/
theorem perform_refines (hsound : actions.Sound) (h : Represents actions registry)
    {op : Operation} (hallows : actions.Allows op) :
    (actions.perform op).1 = (registry.perform actions.book op).1 ∧
      Represents (actions.perform op).2 (registry.perform actions.book op).2 := by
  have heffect := actions.perform_effect op
  generalize (actions.perform op).2 = after at heffect ⊢
  generalize (actions.perform op).1 = answer at heffect ⊢
  generalize hrules : after.book.rules = rules at heffect
  generalize hinputs : after.inputs = inputs at heffect
  generalize after.nextId = nextId at heffect
  have hunchanged (hrules : after.book.rules = actions.book.rules) :
      after.inputs = actions.inputs → Represents after registry :=
    same_represents h fun _ _ => by rw [hrules]
  cases heffect with
  | added hrule hnew =>
    have hnot := h.not_mem_actionsOf hrule
    rw [Registry.perform, hnew, Registry.add_ok hnot]
    exact ⟨rfl, added_represents hsound h hrules hinputs hnot⟩
  | notAdded hrule hnew =>
    rw [Registry.perform, hnew, Registry.add_error (h.not_mem_actionsOf hrule)]
    exact ⟨rfl, hunchanged hrules hinputs⟩
  | taken source hrule =>
    rw [Registry.perform, Registry.add_of_mem (h.mem_actionsOf hrule)]
    exact ⟨rfl, hunchanged hrules hinputs⟩
  | updated hrule hnew =>
    rw [RuleBook.ruleFor_of_contains (hsound.cached (mem_numbers_of_ruleOf? hrule))] at hnew
    rw [Registry.perform, hnew, Registry.update_ok (h.mem_actionsOf hrule)]
    exact ⟨rfl, updated_represents hsound h hrule hrules hinputs⟩
  | notUpdated hrule hnew =>
    rw [RuleBook.ruleFor_of_contains (hsound.cached (mem_numbers_of_ruleOf? hrule))] at hnew
    rw [Registry.perform, hnew, Registry.update_error (h.mem_actionsOf hrule)]
    exact ⟨rfl, hunchanged hrules hinputs⟩
  | missing source hid =>
    obtain ⟨hrule, rfl⟩ := h.absence_eq hid
    rw [Registry.perform, Registry.update_of_not_mem (h.not_mem_actionsOf hrule)]
    exact ⟨rfl, hunchanged hrules hinputs⟩
  | erased hrule => exact ⟨rfl, erased_represents hsound h hrule hrules hinputs⟩
  | absent hrule =>
    have hafter := hunchanged hrules hinputs
    exact ⟨rfl, erase_represents_of_not_mem hafter (h.not_mem_actionsOf hrule)⟩
  | onBook op =>
    refine ⟨rfl, same_represents h (fun name hname => ?_) hinputs⟩
    rw [hrules, get?_of_allows hallows hname]

/-! ## Runs -/

theorem follow_represents {ops : List Operation} : ∀ {actions : ActionBook} {registry : Registry},
    Considerate actions ops → actions.Sound → Represents actions registry →
      Represents (actions.run ops) (Registry.follow actions registry ops) := by
  induction ops with
  | nil => exact fun _ _ h => h
  | cons op ops ih =>
    intro actions registry hops hsound h
    exact ih hops.2 (perform_sound actions op hsound hops.1)
      (perform_refines hsound h hops.1).2

/-- **Actions are a registry.** A rule book, whatever is in it, is put to use for actions, and its
owner keeps away from the numbers that are held. After any such run the inputs, the actions of an
input, the fields of a rule and the actions that are due on a record are those of the registry that
went through the same operations, and the next operation is answered as the registry answers it and
leads to the registry that it says. -/
theorem run_refines (book : RuleBook) (ops : List Operation)
    (considerate : Considerate (ofBook book) ops) :
    let actions := (ofBook book).run ops
    let registry := Registry.follow (ofBook book) .empty ops
    actions.inputNames = registry.inputNames ∧
    (∀ input, actions.actionsOf input = registry.actionsOf input) ∧
    (∀ input action, actions.fields input action = registry.fields input action) ∧
    (∀ input record, actions.evaluate input record = registry.evaluate input record) ∧
    ∀ op, actions.Allows op →
      (actions.perform op).1 = (registry.perform actions.book op).1 ∧
      Registry.follow (ofBook book) .empty (ops ++ [op]) =
        (registry.perform actions.book op).2 := by
  intro actions registry
  have hsound : actions.Sound :=
    run_invariant perform_sound considerate (ofBook_sound book)
  have h : Represents actions registry :=
    follow_represents considerate (ofBook_sound book) (ofBook_represents book)
  refine ⟨h.inputNames_eq, h.actionsOf_eq, h.fields_eq, h.evaluate_eq, fun op hallows => ?_⟩
  exact ⟨(perform_refines hsound h hallows).1, Registry.follow_append ..⟩

end Builder

/-- An action that is there is refused, one gets another rule, a text that is no rule changes
nothing; then the owner clears the operators, so no further action can be added, and the only
action of an input is removed. The rules that are left still have their operators. -/
theorem run_refines_without_operators :
    let ops : List Operation :=
      [.add (.name "age") "show" "[a] > 1", .add (.name "age") "warn" "[b] / [c] > 1",
        .add (.name "age") "show" "[a] > 2", .update (.name "age") "show" "[a] > 5",
        .update (.name "age") "warn" "[b] /", .add (.id 0) "hide" "[a] > 1",
        .book .clearOperators, .add (.name "name") "show" "[a] > 1", .erase (.id 0) "hide"]
    let actions := (ofBook {}).run ops
    let registry := Registry.follow (ofBook {}) .empty ops
    Considerate (ofBook {}) ops ∧ registry.inputNames = [.name "age"] ∧
      registry.actionsOf (.name "age") = ["show", "warn"] ∧
      (∀ record, actions.evaluate (.name "age") record = registry.evaluate (.name "age") record) ∧
      (actions.perform (.book (.erase (.id 7)))).1 =
        (registry.perform actions.book (.book (.erase (.id 7)))).1 := by
  intro ops actions registry
  have considerate : Considerate (ofBook {}) ops := by decide +kernel
  obtain ⟨hnames, hactions, _, hevaluate, hnext⟩ := run_refines {} ops considerate
  refine ⟨considerate, ?_, ?_, hevaluate (.name "age"), ?_⟩
  · exact hnames.symm.trans (by decide +kernel)
  · exact (hactions (.name "age")).symm.trans (by decide +kernel)
  · exact (hnext (.book (.erase (.id 7))) (by decide +kernel)).1

end RuleLang.ActionBook
