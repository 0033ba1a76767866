import RuleLang.PrefixForm

/-!
# Reading the parts of a rule

What the conversion does to any parts, whether they are an infix expression or not. One part has
four effects (`read_cases`) and two ways to be refused (`read_error_cases`). The operators that are
let go move to the output one after the other, whatever they are let go for (`LetsGo`), so what is
kept by one such move is kept by all three functions that let go.

Main statements: only two errors come out of a conversion (`error_of_ofParts`), and **a prefix form
is made of parts of the rule, without its parentheses** (`mem_of_ofParts`).
-/

set_option autoImplicit false

namespace RuleLang.PrefixForm

variable {table : OperatorTable} {limits : Limits} {source : String}

/-! ## One part -/

theorem read_operand {part : Part} (plain : part.isOperator = false) (noParen : part.paren? = none)
    (state : State) :
    read table limits source part state = .ok { state with output := part :: state.output } := by
  cases part with
  | operator symbol => exact absurd plain (by simp [Part.isOperator])
  | text _ | field _ | other _ =>
    unfold read
    simp only [noParen]

theorem read_operator {symbol : String} (noParen : Part.parenOf? symbol = none) (state : State) :
    read table limits source (.operator symbol) state =
      .ok { state with
        output := (letGoTighter table (table.priority symbol) state.output state.held).1
        held := .operator symbol ::
          (letGoTighter table (table.priority symbol) state.output state.held).2 } := by
  have h : (Part.operator symbol).paren? = none := noParen
  rw [read, h]

theorem read_closing {part : Part} (closes : part.paren? = some .closing) {state : State}
    (h : state.depth < limits.maxNestingDepth) :
    read table limits source part state =
      .ok { state with held := .group :: state.held, depth := state.depth + 1 } := by
  unfold read
  simp only [closes]
  exact if_neg (Nat.not_lt.mpr h)

theorem read_closing_deep {part : Part} (closes : part.paren? = some .closing) {state : State}
    (h : limits.maxNestingDepth ≤ state.depth) :
    read table limits source part state =
      .error (.limitExceeded .nestingDepth limits.maxNestingDepth (state.depth + 1)) := by
  unfold read
  simp only [closes]
  exact if_pos (Nat.lt_succ_of_le h)

theorem read_opening {part : Part} (opens : part.paren? = some .opening) {state : State}
    {output : List Part} {held : List Held}
    (h : endGroup? state.output state.held = some (output, held)) :
    read table limits source part state = .ok ⟨output, held, state.depth - 1⟩ := by
  unfold read
  simp only [opens, h]

theorem read_opening_unmatched {part : Part} (opens : part.paren? = some .opening) {state : State}
    (h : endGroup? state.output state.held = none) :
    read table limits source part state = .error (.invalidExpression (.rule source)) := by
  unfold read
  simp only [opens, h]

/-- **The four effects of a part**: a closing parenthesis opens a group, an opening one ends it, an
operator is held back in place of the tighter ones, and an operand goes to the output. -/
theorem read_cases {part : Part} {state state' : State}
    (h : read table limits source part state = .ok state') :
    (part.paren? = some .closing ∧ state.depth < limits.maxNestingDepth ∧
      state' = { state with held := .group :: state.held, depth := state.depth + 1 }) ∨
    (part.paren? = some .opening ∧ ∃ output held,
      endGroup? state.output state.held = some (output, held) ∧
      state' = ⟨output, held, state.depth - 1⟩) ∨
    (∃ symbol, part = .operator symbol ∧ Part.parenOf? symbol = none ∧
      state' = { state with
        output := (letGoTighter table (table.priority symbol) state.output state.held).1
        held := .operator symbol ::
          (letGoTighter table (table.priority symbol) state.output state.held).2 }) ∨
    (part.isOperator = false ∧ part.paren? = none ∧
      state' = { state with output := part :: state.output }) := by
  match hparen : part.paren? with
  | some .closing =>
    by_cases hdepth : state.depth < limits.maxNestingDepth
    · rw [read_closing hparen hdepth] at h
      exact .inl ⟨rfl, hdepth, (Except.ok.inj h).symm⟩
    · rw [read_closing_deep hparen (Nat.not_lt.mp hdepth)] at h
      exact absurd h (by simp)
  | some .opening =>
    cases hend : endGroup? state.output state.held with
    | none =>
      rw [read_opening_unmatched hparen hend] at h
      exact absurd h (by simp)
    | some ended =>
      rw [read_opening hparen hend] at h
      exact .inr (.inl ⟨rfl, ended.1, ended.2, rfl, (Except.ok.inj h).symm⟩)
  | none =>
    cases part with
    | operator symbol =>
      rw [read_operator hparen] at h
      exact .inr (.inr (.inl ⟨symbol, rfl, hparen, (Except.ok.inj h).symm⟩))
    | text _ | field _ | other _ =>
      rw [read_operand rfl hparen] at h
      exact .inr (.inr (.inr ⟨rfl, rfl, (Except.ok.inj h).symm⟩))

/-- A part is refused if it opens one group too many, or ends one that is not open. -/
theorem read_error_cases {part : Part} {state : State} {e : RuleError}
    (h : read table limits source part state = .error e) :
    (part.paren? = some .closing ∧ limits.maxNestingDepth ≤ state.depth ∧
      e = .limitExceeded .nestingDepth limits.maxNestingDepth (state.depth + 1)) ∨
    (part.paren? = some .opening ∧ endGroup? state.output state.held = none ∧
      e = .invalidExpression (.rule source)) := by
  match hparen : part.paren? with
  | some .closing =>
    by_cases hdepth : state.depth < limits.maxNestingDepth
    · rw [read_closing hparen hdepth] at h
      exact absurd h (by simp)
    · rw [read_closing_deep hparen (Nat.not_lt.mp hdepth)] at h
      exact .inl ⟨rfl, Nat.not_lt.mp hdepth, (Except.error.inj h).symm⟩
  | some .opening =>
    cases hend : endGroup? state.output state.held with
    | none =>
      rw [read_opening_unmatched hparen hend] at h
      exact .inr ⟨rfl, rfl, (Except.error.inj h).symm⟩
    | some ended =>
      rw [read_opening hparen hend] at h
      exact absurd h (by simp)
  | none =>
    cases part with
    | operator symbol =>
      rw [read_operator hparen] at h
      exact absurd h (by simp)
    | text _ | field _ | other _ =>
      rw [read_operand rfl hparen] at h
      exact absurd h (by simp)

/-! ## Letting go -/

/-- Operators move from what is held back to the output, the last one held first. -/
inductive LetsGo : List Part → List Held → List Part → List Held → Prop
  | refl (output : List Part) (held : List Held) : LetsGo output held output held
  | step {symbol : String} {output output' : List Part} {held held' : List Held} :
      LetsGo (.operator symbol :: output) held output' held' →
        LetsGo output (.operator symbol :: held) output' held'

theorem letsGo_letGoTighter (priority : Int) (held : List Held) : ∀ (output : List Part),
    LetsGo output held (letGoTighter table priority output held).1
      (letGoTighter table priority output held).2 := by
  induction held with
  | nil => exact fun output => .refl output []
  | cons top held ih =>
    intro output
    cases top with
    | group => exact .refl output _
    | operator symbol =>
      rw [letGoTighter]
      split
      · exact .step (ih _)
      · exact .refl _ _

theorem letsGo_of_endGroup? {held held' : List Held} : ∀ {output output' : List Part},
    endGroup? output held = some (output', held') →
      LetsGo output held output' (.group :: held') := by
  induction held with
  | nil =>
    intro output output' h
    exact absurd h (by simp [endGroup?])
  | cons top held ih =>
    intro output output' h
    cases top with
    | group =>
      simp only [endGroup?, Option.some.injEq, Prod.mk.injEq] at h
      obtain ⟨rfl, rfl⟩ := h
      exact .refl _ _
    | operator symbol => exact .step (ih h)

theorem letsGo_of_letGoAll? {held : List Held} : ∀ {output output' : List Part},
    letGoAll? output held = some output' → LetsGo output held output' [] := by
  induction held with
  | nil =>
    intro output output' h
    obtain rfl : output = output' := Option.some.inj h
    exact .refl _ _
  | cons top held ih =>
    intro output output' h
    cases top with
    | group => exact absurd h (by simp [letGoAll?])
    | operator symbol => exact .step (ih h)

/-! ## All parts -/

theorem readAll_cons {after : List Part} {state : State} (part : Part)
    (h : readAll table limits source after = .ok state) :
    readAll table limits source (part :: after) = read table limits source part state := by
  rw [readAll, h]
  rfl

theorem readAll_of_cons {part : Part} {parts : List Part} {state : State}
    (h : readAll table limits source (part :: parts) = .ok state) :
    ∃ before, readAll table limits source parts = .ok before ∧
      read table limits source part before = .ok state := by
  rw [readAll] at h
  cases hparts : readAll table limits source parts with
  | error e =>
    rw [hparts] at h
    exact absurd h (by simp [bind, Except.bind])
  | ok before =>
    rw [hparts] at h
    exact ⟨before, rfl, h⟩

/-- What holds at the beginning and is kept by every part holds of every state that is read. -/
theorem readAll_induction {motive : List Part → State → Prop} (nil : motive [] {})
    (cons : ∀ part parts state state', motive parts state →
      read table limits source part state = .ok state' → motive (part :: parts) state') :
    ∀ {parts : List Part} {state : State}, readAll table limits source parts = .ok state →
      motive parts state := by
  intro parts
  induction parts with
  | nil =>
    intro state h
    obtain rfl : ({} : State) = state := Except.ok.inj h
    exact nil
  | cons part parts ih =>
    intro state h
    obtain ⟨before, hparts, hread⟩ := readAll_of_cons h
    exact cons part parts before state (ih hparts) hread

theorem depth_le_of_readAll {parts : List Part} {state : State}
    (h : readAll table limits source parts = .ok state) : state.depth ≤ limits.maxNestingDepth := by
  refine readAll_induction (motive := fun _ state => state.depth ≤ limits.maxNestingDepth)
    (Nat.zero_le _) ?_ h
  intro part parts state state' hle hread
  rcases read_cases hread with ⟨_, hlt, rfl⟩ | ⟨_, _, _, _, rfl⟩ | ⟨_, _, _, rfl⟩ | ⟨_, _, rfl⟩
  · exact hlt
  · exact Nat.le_trans (Nat.sub_le _ _) hle
  · exact hle
  · exact hle

theorem ofParts_eq_ok_iff {parts output : List Part} :
    ofParts table limits source parts = .ok output ↔
      ∃ state, readAll table limits source parts = .ok state ∧
        letGoAll? state.output state.held = some output := by
  rw [ofParts]
  cases hread : readAll table limits source parts with
  | error e => simp [bind, Except.bind]
  | ok state =>
    simp only [bind, Except.bind, Except.ok.injEq, exists_eq_left']
    cases letGoAll? state.output state.held <;> simp

theorem error_of_readAll {parts : List Part} : ∀ {e : RuleError},
    readAll table limits source parts = .error e →
      e = .limitExceeded .nestingDepth limits.maxNestingDepth (limits.maxNestingDepth + 1) ∨
      e = .invalidExpression (.rule source) := by
  induction parts with
  | nil =>
    intro e h
    exact absurd h (by simp [readAll])
  | cons part parts ih =>
    intro e h
    cases hparts : readAll table limits source parts with
    | error e' =>
      rw [readAll, hparts] at h
      obtain rfl : e' = e := Except.error.inj h
      exact ih hparts
    | ok state =>
      rw [readAll_cons part hparts] at h
      rcases read_error_cases h with ⟨_, hge, rfl⟩ | ⟨_, _, rfl⟩
      · -- As many groups are open as may be, so the one too many is the next one.
        rw [Nat.le_antisymm (depth_le_of_readAll hparts) hge]
        exact .inl rfl
      · exact .inr rfl

/-- Parts have no prefix form for one of two reasons: they nest one level too deep, or their
parentheses do not match. -/
theorem error_of_ofParts {parts : List Part} {e : RuleError}
    (h : ofParts table limits source parts = .error e) :
    e = .limitExceeded .nestingDepth limits.maxNestingDepth (limits.maxNestingDepth + 1) ∨
    e = .invalidExpression (.rule source) := by
  rw [ofParts] at h
  cases hread : readAll table limits source parts with
  | error e' =>
    rw [hread] at h
    obtain rfl : e' = e := Except.error.inj h
    exact error_of_readAll hread
  | ok state =>
    rw [hread] at h
    simp only [bind, Except.bind] at h
    split at h
    · exact .inr (Except.error.inj h).symm
    · exact absurd h (by simp)

/-! ## Where the parts of a prefix form come from -/

/-- All that was put into a state, in the output or held back, has a property. -/
def AllOf (P : Part → Prop) (output : List Part) (held : List Held) : Prop :=
  (∀ p ∈ output, P p) ∧ ∀ symbol, Held.operator symbol ∈ held → P (.operator symbol)

theorem AllOf.letsGo {P : Part → Prop} {output output' : List Part} {held held' : List Held}
    (hall : AllOf P output held) (h : LetsGo output held output' held') :
    AllOf P output' held' := by
  induction h with
  | refl => exact hall
  | step _ ih =>
    refine ih ⟨fun p hp => ?_, fun s hs => hall.2 s (List.mem_cons_of_mem _ hs)⟩
    rcases List.mem_cons.mp hp with rfl | hp
    · exact hall.2 _ List.mem_cons_self
    · exact hall.1 p hp

theorem allOf_of_readAll {parts : List Part} {state : State}
    (h : readAll table limits source parts = .ok state) :
    AllOf (fun p => p ∈ parts ∧ p.paren? = none) state.output state.held := by
  refine readAll_induction (motive := fun parts state =>
    AllOf (fun p => p ∈ parts ∧ p.paren? = none) state.output state.held) ⟨by simp, by simp⟩ ?_ h
  intro part parts state state' hall hread
  have hmore : AllOf (fun p => p ∈ part :: parts ∧ p.paren? = none) state.output state.held :=
    ⟨fun p hp => (hall.1 p hp).imp_left (List.mem_cons_of_mem _),
     fun s hs => (hall.2 s hs).imp_left (List.mem_cons_of_mem _)⟩
  rcases read_cases hread with ⟨_, _, rfl⟩ | ⟨_, output, held, hend, rfl⟩ |
    ⟨symbol, rfl, noParen, rfl⟩ | ⟨_, noParen, rfl⟩
  · exact ⟨hmore.1, fun s hs => hmore.2 s (by simpa using hs)⟩
  · have hended := hmore.letsGo (letsGo_of_endGroup? hend)
    exact ⟨hended.1, fun s hs => hended.2 s (List.mem_cons_of_mem _ hs)⟩
  · have hgone := hmore.letsGo (@letsGo_letGoTighter table (table.priority symbol) _ _)
    refine ⟨hgone.1, fun s hs => ?_⟩
    rcases List.mem_cons.mp hs with hs | hs
    · obtain rfl : s = symbol := Held.operator.inj hs
      exact ⟨List.mem_cons_self, noParen⟩
    · exact hgone.2 s hs
  · refine ⟨fun p hp => ?_, hmore.2⟩
    rcases List.mem_cons.mp hp with rfl | hp
    · exact ⟨List.mem_cons_self, noParen⟩
    · exact hmore.1 p hp

/-- **A prefix form is made of the parts it was made from, without parentheses.** -/
theorem mem_of_ofParts {parts output : List Part}
    (h : ofParts table limits source parts = .ok output) {part : Part} (hmem : part ∈ output) :
    part ∈ parts ∧ part.paren? = none := by
  obtain ⟨state, hread, hall⟩ := ofParts_eq_ok_iff.mp h
  exact ((allOf_of_readAll hread).letsGo (letsGo_of_letGoAll? hall)).1 part hmem

end RuleLang.PrefixForm
