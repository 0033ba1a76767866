import RuleLang.Proofs.ActionBook.Run

/-!
# Registries

What actions are, without numbers and without a rule book: every input has a list of entries, each
an action with its rule, in the order they were added. The list is never empty and has no action
twice. That is part of the type, so each change says why it keeps to it.

A change is handed the rule, or the reason why there is none; how a text becomes a rule is no
matter of a registry.
-/

set_option autoImplicit false

namespace RuleLang

/-- An action with the rule that guards it. -/
structure Entry where
  action : String
  rule : Rule

namespace Entry

/-- Whether the value of the rule counts as true. A rule without a value does not. -/
def triggers (record : Record) (entry : Entry) : Bool :=
  match entry.rule.evaluate record with
  | .ok value => value.truthy
  | .error _ => false

/-- The failure that an evaluation ends with because of an entry. A rule that has no value while
one of its fields is missing or `null` is none. -/
def failure? (input : RuleName) (record : Record) (entry : Entry) : Option RuleError :=
  match entry.rule.evaluate record with
  | .ok _ => none
  | .error _ =>
    if ActionBook.lacksField record entry.rule.fields then none
    else some (.invalidExpression (.guarding entry.action input))

/-- The entry with another rule, if it is the entry of an action. -/
def setRule (action : String) (rule : Rule) (entry : Entry) : Entry :=
  if entry.action = action then { entry with rule } else entry

theorem setRule_action (action : String) (rule : Rule) (entry : Entry) :
    (entry.setRule action rule).action = entry.action := by
  unfold setRule
  split <;> rfl

end Entry

/-- The entries of every input. An input without entries is not there. -/
structure Registry where
  inputs : SortedMap RuleName (List Entry)
  nonempty : ∀ {input entries}, inputs.get? input = some entries → entries ≠ []
  distinct : ∀ {input entries}, inputs.get? input = some entries →
    (entries.map Entry.action).Nodup

namespace Registry

/-- No input has any action. -/
def empty : Registry where
  inputs := .empty
  nonempty h := absurd h (by simp)
  distinct h := absurd h (by simp)

/-! ## Looking up -/

def inputNames (registry : Registry) : List RuleName := registry.inputs.keys

def entriesOf (registry : Registry) (input : RuleName) : List Entry :=
  (registry.inputs.get? input).getD []

def actionsOf (registry : Registry) (input : RuleName) : List String :=
  (registry.entriesOf input).map Entry.action

theorem nodup_actionsOf (registry : Registry) (input : RuleName) :
    (registry.actionsOf input).Nodup := by
  unfold actionsOf entriesOf
  cases hentries : registry.inputs.get? input with
  | none => exact List.nodup_nil
  | some entries => exact registry.distinct hentries

/-- An input is there exactly if it has entries. -/
theorem contains_eq (registry : Registry) (input : RuleName) :
    registry.inputs.contains input = !(registry.entriesOf input).isEmpty := by
  unfold SortedMap.contains entriesOf
  cases hentries : registry.inputs.get? input with
  | none => rfl
  | some entries =>
    have hne : entries.isEmpty = false := by simpa using registry.nonempty hentries
    rw [Option.getD_some, hne]
    rfl

/-- Why an input does not have an action. -/
def absence (registry : Registry) (input : RuleName) (action : String) : RuleError :=
  if registry.inputs.contains input then .actionNotRegistered input action
  else .inputNotRegistered input

def fields (registry : Registry) (input : RuleName) (action : String) :
    Except RuleError (List String) :=
  match (registry.entriesOf input).find? (·.action == action) with
  | some entry => .ok entry.rule.fields
  | none => .error (registry.absence input action)

/-- The actions of an input that are due, in the order of its entries, unless one of them fails. -/
def evaluate (registry : Registry) (input : RuleName) (record : Record) :
    Except RuleError (List String) :=
  match (registry.entriesOf input).findSome? (Entry.failure? input record) with
  | some e => .error e
  | none => .ok (((registry.entriesOf input).filter (Entry.triggers record)).map Entry.action)

/-! ## Changes -/

/-- Gives an input other entries. An input without any is dropped. -/
def withEntries (registry : Registry) (input : RuleName) (entries : List Entry)
    (nodup : (entries.map Entry.action).Nodup) : Registry where
  inputs := registry.inputs.insertList input entries
  nonempty := by
    intro input' entries' h
    rw [SortedMap.get?_insertList] at h
    split at h
    · split at h
      · exact absurd h (by simp)
      · next hsome =>
        obtain rfl := Option.some.inj h
        rintro rfl
        exact hsome rfl
    · exact registry.nonempty h
  distinct := by
    intro input' entries' h
    rw [SortedMap.get?_insertList] at h
    split at h
    · split at h
      · exact absurd h (by simp)
      · obtain rfl := Option.some.inj h
        exact nodup
    · exact registry.distinct h

theorem entriesOf_withEntries (registry : Registry) (input other : RuleName)
    (entries : List Entry) (nodup : (entries.map Entry.action).Nodup) :
    (registry.withEntries input entries nodup).entriesOf other =
      if compare other input = .eq then entries else registry.entriesOf other :=
  SortedMap.getD_get?_insertList ..

/-- A new action goes behind the others. -/
theorem nodup_append {registry : Registry} {input : RuleName} {action : String}
    (h : action ∉ registry.actionsOf input) (rule : Rule) :
    ((registry.entriesOf input ++ [(⟨action, rule⟩ : Entry)]).map Entry.action).Nodup := by
  rw [List.map_append, List.nodup_append]
  refine ⟨registry.nodup_actionsOf input, by simp, fun other hother this hthis => ?_⟩
  obtain rfl := List.mem_singleton.mp hthis
  rintro rfl
  exact h hother

theorem nodup_setRule (registry : Registry) (input : RuleName) (action : String) (rule : Rule) :
    (((registry.entriesOf input).map (Entry.setRule action rule)).map Entry.action).Nodup := by
  have hsame : Entry.action ∘ Entry.setRule action rule = Entry.action :=
    funext (Entry.setRule_action action rule)
  rw [List.map_map, hsame]
  exact registry.nodup_actionsOf input

theorem nodup_filter (registry : Registry) (input : RuleName) (p : Entry → Bool) :
    (((registry.entriesOf input).filter p).map Entry.action).Nodup :=
  (registry.nodup_actionsOf input).sublist (List.filter_sublist.map _)

/-- Puts an action that an input does not have behind those it has. -/
def add (registry : Registry) (input : RuleName) (action : String) (rule : Except RuleError Rule) :
    Except RuleError Unit × Registry :=
  if h : action ∈ registry.actionsOf input then (.error (.actionExists input action), registry)
  else
    match rule with
    | .error e => (.error e, registry)
    | .ok rule =>
      (.ok (), registry.withEntries input (registry.entriesOf input ++ [⟨action, rule⟩])
        (nodup_append h rule))

/-- Gives an action of an input another rule. -/
def update (registry : Registry) (input : RuleName) (action : String)
    (rule : Except RuleError Rule) : Except RuleError Unit × Registry :=
  if action ∈ registry.actionsOf input then
    match rule with
    | .error e => (.error e, registry)
    | .ok rule =>
      (.ok (), registry.withEntries input
        ((registry.entriesOf input).map (Entry.setRule action rule))
        (registry.nodup_setRule input action rule))
  else (.error (registry.absence input action), registry)

section Cases

variable {registry : Registry} {input : RuleName} {action : String}

theorem add_of_mem (h : action ∈ registry.actionsOf input) (rule : Except RuleError Rule) :
    registry.add input action rule = (.error (.actionExists input action), registry) := dif_pos h

theorem add_ok (h : action ∉ registry.actionsOf input) (rule : Rule) :
    registry.add input action (.ok rule) =
      (.ok (), registry.withEntries input (registry.entriesOf input ++ [⟨action, rule⟩])
        (nodup_append h rule)) := dif_neg h

theorem add_error (h : action ∉ registry.actionsOf input) (e : RuleError) :
    registry.add input action (.error e) = (.error e, registry) := dif_neg h

theorem update_of_not_mem (h : action ∉ registry.actionsOf input)
    (rule : Except RuleError Rule) :
    registry.update input action rule = (.error (registry.absence input action), registry) :=
  if_neg h

theorem update_ok (h : action ∈ registry.actionsOf input) (rule : Rule) :
    registry.update input action (.ok rule) =
      (.ok (), registry.withEntries input
        ((registry.entriesOf input).map (Entry.setRule action rule))
        (registry.nodup_setRule input action rule)) := if_pos h

theorem update_error (h : action ∈ registry.actionsOf input) (e : RuleError) :
    registry.update input action (.error e) = (.error e, registry) := if_pos h

end Cases

/-- Removes an action of an input. The others stay in their order. -/
def erase (registry : Registry) (input : RuleName) (action : String) : Registry :=
  registry.withEntries input ((registry.entriesOf input).filter (·.action != action))
    (registry.nodup_filter input _)

section Builder

variable [MatcherBuilder]

/-- What an operation makes of a registry while a rule book is as it is. Of the book it takes the
rule of a text and no more; an operation that the owner asks of the book is no concern. -/
def perform (book : RuleBook) (registry : Registry) :
    ActionBook.Operation → Except RuleError Unit × Registry
  | .add input action source => registry.add input action (book.newRule source)
  | .update input action source => registry.update input action (book.compile source).1
  | .erase input action => (.ok (), registry.erase input action)
  | .book op => ((book.perform op).1, registry)

/-- The registry after some operations, while an action book goes through the same. -/
def follow : ActionBook → Registry → List ActionBook.Operation → Registry
  | _, registry, [] => registry
  | actions, registry, op :: ops =>
    follow (actions.perform op).2 (registry.perform actions.book op).2 ops

theorem follow_append (ops : List ActionBook.Operation) (op : ActionBook.Operation) :
    ∀ (actions : ActionBook) (registry : Registry),
      follow actions registry (ops ++ [op]) =
        ((follow actions registry ops).perform (actions.run ops).book op).2 := by
  induction ops with
  | nil => exact fun _ _ => rfl
  | cons first ops ih =>
    intro actions registry
    exact ih (actions.perform first).2 (registry.perform actions.book first).2

end Builder

end Registry

end RuleLang
