import Mathlib.Data.List.Infix
import RuleLang.Proofs.PrefixForm.Reading

/-!
# Parentheses decide

Whether parts have a prefix form is a matter of their parentheses alone, and so is what is wrong
with them if they have none. The parts are read from the last to the first, so what counts is the
depth of their endings: how many more groups end in an ending than begin in it.

Main statement: **reading stops at the shortest ending whose depth is below zero or above the limit,
and which of the two it is tells the error; if there is no such ending, parts have a prefix form
exactly if their depth is zero** (`verdict_of_parentheses`).

Two things keep count of the open groups: the depth in the state, and the marks among what is held
back. Letting operators go moves no mark (`LetsGo.count_group`), so both agree with the depth of
what was read (`inStep_of_readAll`). The depth in the state is a natural number, and it is never
taken below zero.
-/

set_option autoImplicit false

namespace RuleLang

namespace Part

theorem parenOf?_eq_opening_iff {spelling : String} :
    parenOf? spelling = some .opening ↔ spelling = "(" := by
  simp [parenOf?]

theorem parenOf?_eq_closing_iff {spelling : String} :
    parenOf? spelling = some .closing ↔ spelling = ")" := by
  unfold parenOf?
  split
  · next hopening => simp [hopening]
  · simp

theorem paren?_eq_opening_iff {part : Part} :
    part.paren? = some .opening ↔ part = .operator "(" ∨ part = .other "(" := by
  cases part <;> simp [paren?, parenOf?_eq_opening_iff]

theorem paren?_eq_closing_iff {part : Part} :
    part.paren? = some .closing ↔ part = .operator ")" ∨ part = .other ")" := by
  cases part <;> simp [paren?, parenOf?_eq_closing_iff]

end Part

/-! ## The depth of parts -/

/-- How many parts are an opening parenthesis. -/
def openings (parts : List Part) : Nat :=
  parts.count (.operator "(") + parts.count (.other "(")

/-- How many parts are a closing parenthesis. -/
def closings (parts : List Part) : Nat :=
  parts.count (.operator ")") + parts.count (.other ")")

/-- How many more groups end in some parts than begin in them. -/
def depthOf (parts : List Part) : Int := closings parts - openings parts

/-- Whether the depth of some parts is one that a group can have. -/
def InBounds (limits : Limits) (parts : List Part) : Prop :=
  0 ≤ depthOf parts ∧ depthOf parts ≤ limits.maxNestingDepth

/-- Whether no ending of some parts is out of bounds. -/
def WellNested (limits : Limits) (parts : List Part) : Prop :=
  ∀ ending, ending <:+ parts → InBounds limits ending

section Depth

variable {part : Part} {limits : Limits}

@[simp] theorem depthOf_nil : depthOf [] = 0 := rfl

theorem depthOf_opening (opens : part.paren? = some .opening) (parts : List Part) :
    depthOf (part :: parts) = depthOf parts - 1 := by
  rcases Part.paren?_eq_opening_iff.mp opens with h | h
  · simp [h, depthOf, closings, openings]
    omega
  · simp [h, depthOf, closings, openings]
    omega

theorem depthOf_closing (closes : part.paren? = some .closing) (parts : List Part) :
    depthOf (part :: parts) = depthOf parts + 1 := by
  rcases Part.paren?_eq_closing_iff.mp closes with h | h
  · simp [h, depthOf, closings, openings]
    omega
  · simp [h, depthOf, closings, openings]
    omega

theorem depthOf_noParen (noParen : part.paren? = none) (parts : List Part) :
    depthOf (part :: parts) = depthOf parts := by
  have hne {other : Part} (hother : other.paren? ≠ none) : part ≠ other := by
    intro heq
    exact hother (heq ▸ noParen)
  unfold depthOf closings openings
  rw [List.count_cons_of_ne (hne (by decide)), List.count_cons_of_ne (hne (by decide)),
    List.count_cons_of_ne (hne (by decide)), List.count_cons_of_ne (hne (by decide))]

theorem wellNested_nil : WellNested limits [] := by
  simp [WellNested, InBounds]

theorem wellNested_cons {parts : List Part} :
    WellNested limits (part :: parts) ↔
      InBounds limits (part :: parts) ∧ WellNested limits parts := by
  simp only [WellNested, List.suffix_cons_iff, forall_eq_or_imp]

/-- Of the endings that are out of bounds one is the shortest. -/
theorem exists_shortest (parts : List Part) (h : ¬ WellNested limits parts) :
    ∃ before part after, parts = before ++ part :: after ∧ ¬ InBounds limits (part :: after) ∧
      WellNested limits after := by
  induction parts with
  | nil => exact absurd wellNested_nil h
  | cons first parts ih =>
    by_cases hparts : WellNested limits parts
    · have hbounds : ¬ InBounds limits (first :: parts) := fun hbounds =>
        h (wellNested_cons.mpr ⟨hbounds, hparts⟩)
      exact ⟨[], first, parts, rfl, hbounds, hparts⟩
    · obtain ⟨before, part, after, hsplit, hend⟩ := ih hparts
      exact ⟨first :: before, part, after, by rw [hsplit]; rfl, hend⟩

end Depth

namespace PrefixForm

variable {table : OperatorTable} {limits : Limits} {source : String} {parts : List Part}

/-! ## The marks of open groups -/

theorem LetsGo.count_group {output output' : List Part} {held held' : List Held}
    (h : LetsGo output held output' held') : held'.count .group = held.count .group := by
  induction h with
  | refl => rfl
  | step _ ih => simp [ih]

theorem count_letGoTighter (priority : Int) (output : List Part) (held : List Held) :
    (letGoTighter table priority output held).2.count .group = held.count .group :=
  (letsGo_letGoTighter priority held output).count_group

/-- Ending a group takes its mark away. -/
theorem count_endGroup? {output output' : List Part} {held held' : List Held}
    (h : endGroup? output held = some (output', held')) :
    held.count .group = held'.count .group + 1 := by
  simp [← (letsGo_of_endGroup? h).count_group]

theorem endGroup?_eq_none_iff {held : List Held} : ∀ {output : List Part},
    endGroup? output held = none ↔ held.count .group = 0 := by
  induction held with
  | nil => simp [endGroup?]
  | cons top held ih =>
    intro output
    cases top with
    | group => simp [endGroup?]
    | operator symbol => simp [endGroup?, ih]

theorem letGoAll?_eq_none_iff {held : List Held} : ∀ {output : List Part},
    letGoAll? output held = none ↔ held.count .group ≠ 0 := by
  induction held with
  | nil => simp [letGoAll?]
  | cons top held ih =>
    intro output
    cases top with
    | group => simp [letGoAll?]
    | operator symbol => simp [letGoAll?, ih]

/-! ## Reading keeps count -/

/-- What was read is as deep as the state says, and as many groups are marked. -/
structure InStep (parts : List Part) (state : State) : Prop where
  depth : (state.depth : Int) = depthOf parts
  marks : state.held.count .group = state.depth

theorem InStep.read {part : Part} {state state' : State} (h : InStep parts state)
    (hread : read table limits source part state = .ok state') : InStep (part :: parts) state' := by
  obtain ⟨hdepth, hmarks⟩ := h
  rcases read_cases hread with ⟨closes, _, rfl⟩ | ⟨opens, output, held, hend, rfl⟩ |
    ⟨symbol, rfl, noParen, rfl⟩ | ⟨_, noParen, rfl⟩
  · constructor
    · simp [depthOf_closing closes, hdepth]
    · simp [hmarks]
  · -- A group is marked, so the depth is not zero before the group ends.
    have hcount := count_endGroup? hend
    constructor
    · simp only [depthOf_opening opens, ← hdepth]
      omega
    · simp only
      omega
  · constructor
    · have hnone : (Part.operator symbol).paren? = none := noParen
      simpa [depthOf_noParen hnone] using hdepth
    · simp [count_letGoTighter, hmarks]
  · constructor
    · simpa [depthOf_noParen noParen] using hdepth
    · exact hmarks

theorem inStep_of_readAll {state : State} (h : readAll table limits source parts = .ok state) :
    InStep parts state := by
  refine readAll_induction (motive := InStep) ⟨rfl, rfl⟩ ?_ h
  intro part parts state state' hstep hread
  exact hstep.read hread

/-! ## What a part out of bounds does -/

/-- What is wrong with parts of a depth out of bounds: a group begins that does not end, or there is
one group too many. -/
def faultOf (limits : Limits) (source : String) (depth : Int) : RuleError :=
  if depth < 0 then .invalidExpression (.rule source)
  else .limitExceeded .nestingDepth limits.maxNestingDepth (limits.maxNestingDepth + 1)

theorem InStep.exists_read {part : Part} {state : State} (h : InStep parts state)
    (hbounds : InBounds limits (part :: parts)) :
    ∃ state', PrefixForm.read table limits source part state = .ok state' := by
  obtain ⟨hdepth, hmarks⟩ := h
  unfold InBounds at hbounds
  cases hread : PrefixForm.read table limits source part state with
  | ok state' => exact ⟨state', rfl⟩
  | error e =>
    exfalso
    rcases read_error_cases hread with ⟨closes, hdeep, _⟩ | ⟨opens, hend, _⟩
    · rw [depthOf_closing closes] at hbounds
      omega
    · have hnone := endGroup?_eq_none_iff.mp hend
      rw [depthOf_opening opens] at hbounds
      omega

/-- **A part that takes the depth out of bounds is refused.** As the depth was in bounds before it,
it is now one below zero or one above the limit. -/
theorem InStep.read_error {part : Part} {state : State} (h : InStep parts state)
    (hlimit : state.depth ≤ limits.maxNestingDepth) (hbounds : ¬ InBounds limits (part :: parts)) :
    PrefixForm.read table limits source part state =
      .error (faultOf limits source (depthOf (part :: parts))) := by
  obtain ⟨hdepth, hmarks⟩ := h
  unfold InBounds at hbounds
  match hparen : part.paren? with
  | some .closing =>
    rw [depthOf_closing hparen] at hbounds ⊢
    have hfull : state.depth = limits.maxNestingDepth := by omega
    rw [read_closing_deep hparen (Nat.le_of_eq hfull.symm), faultOf, if_neg (by omega), hfull]
  | some .opening =>
    rw [depthOf_opening hparen] at hbounds ⊢
    have hnone : endGroup? state.output state.held = none := endGroup?_eq_none_iff.mpr (by omega)
    rw [read_opening_unmatched hparen hnone, faultOf, if_pos (by omega)]
  | none =>
    rw [depthOf_noParen hparen] at hbounds
    omega

/-! ## The verdict -/

theorem exists_readAll (h : WellNested limits parts) :
    ∃ state, readAll table limits source parts = .ok state := by
  induction parts with
  | nil => exact ⟨{}, rfl⟩
  | cons part parts ih =>
    obtain ⟨hbounds, hparts⟩ := wellNested_cons.mp h
    obtain ⟨state, hstate⟩ := ih hparts
    obtain ⟨state', hread⟩ := (inStep_of_readAll hstate).exists_read hbounds
    exact ⟨state', by rw [readAll_cons part hstate, hread]⟩

theorem readAll_append_error {after : List Part} {e : RuleError} (before : List Part)
    (h : readAll table limits source after = .error e) :
    readAll table limits source (before ++ after) = .error e := by
  induction before with
  | nil => exact h
  | cons part before ih =>
    simp only [List.cons_append, readAll, ih]
    rfl

/-- Once everything was read, what is left to see is whether all groups have ended. -/
theorem ofParts_of_readAll {state : State} (h : readAll table limits source parts = .ok state) :
    if depthOf parts = 0 then ∃ output, ofParts table limits source parts = .ok output
    else ofParts table limits source parts = .error (.invalidExpression (.rule source)) := by
  obtain ⟨hdepth, hmarks⟩ := inStep_of_readAll h
  rw [ofParts, h]
  simp only [bind, Except.bind]
  cases hall : letGoAll? state.output state.held with
  | none =>
    have hopen := letGoAll?_eq_none_iff.mp hall
    rw [if_neg (by omega)]
  | some output =>
    have hclosed : ¬ state.held.count .group ≠ 0 := by
      intro hopen
      rw [letGoAll?_eq_none_iff.mpr hopen] at hall
      exact absurd hall (by simp)
    rw [if_pos (by omega)]
    exact ⟨output, rfl⟩

/-- All that comes after the first part of the shortest ending out of bounds is read, and that part
is refused, whatever comes before it. -/
theorem refused_of_shortest {part : Part} {after : List Part} (hafter : WellNested limits after)
    (hbounds : ¬ InBounds limits (part :: after)) (before : List Part) :
    (∃ state, readAll table limits source after = .ok state) ∧
      readAll table limits source (part :: after) =
        .error (faultOf limits source (depthOf (part :: after))) ∧
      ofParts table limits source (before ++ part :: after) =
        .error (faultOf limits source (depthOf (part :: after))) := by
  obtain ⟨state, hstate⟩ := @exists_readAll table limits source after hafter
  have hrefused : readAll table limits source (part :: after) =
      .error (faultOf limits source (depthOf (part :: after))) := by
    rw [readAll_cons part hstate]
    exact (inStep_of_readAll hstate).read_error (depth_le_of_readAll hstate) hbounds
  refine ⟨⟨state, hstate⟩, hrefused, ?_⟩
  rw [ofParts, readAll_append_error before hrefused]
  rfl

end PrefixForm

open PrefixForm in
/-- **The parentheses decide.** If some ending of the parts is out of bounds, the shortest such one
is where reading stops: all that comes after its first part is read, and that part is refused, as a
group that does not end if the depth is below zero, and as one level too many if it is above the
limit. If no ending is out of bounds, the parts have a prefix form exactly if their depth is zero.
So they have one exactly if their parentheses match and nest within the limit, whatever the
operators are. The depth that the reading counts is that of what was read, so it is never taken
below zero. -/
theorem verdict_of_parentheses (table : OperatorTable) (limits : Limits) (source : String)
    (parts : List Part) :
    (¬ WellNested limits parts →
      ∃ before part after, parts = before ++ part :: after ∧ ¬ InBounds limits (part :: after) ∧
        WellNested limits after ∧ (∃ state, readAll table limits source after = .ok state) ∧
        readAll table limits source (part :: after) =
          .error (faultOf limits source (depthOf (part :: after))) ∧
        ofParts table limits source parts =
          .error (faultOf limits source (depthOf (part :: after)))) ∧
    (WellNested limits parts → depthOf parts ≠ 0 →
      ofParts table limits source parts = .error (.invalidExpression (.rule source))) ∧
    ((∃ output, ofParts table limits source parts = .ok output) ↔
      WellNested limits parts ∧ depthOf parts = 0) ∧
    (∀ ending state, ending <:+ parts → readAll table limits source ending = .ok state →
      (state.depth : Int) = depthOf ending) := by
  have hgo (h : WellNested limits parts) :
      if depthOf parts = 0 then ∃ output, ofParts table limits source parts = .ok output
      else ofParts table limits source parts = .error (.invalidExpression (.rule source)) := by
    obtain ⟨state, hstate⟩ := @exists_readAll table limits source parts h
    exact ofParts_of_readAll hstate
  refine ⟨?_, ?_, ?_, ?_⟩
  · intro h
    obtain ⟨before, part, after, rfl, hbounds, hafter⟩ := exists_shortest parts h
    exact ⟨before, part, after, rfl, hbounds, hafter, refused_of_shortest hafter hbounds before⟩
  · intro h hdepth
    simpa [hdepth] using hgo h
  · constructor
    · intro hok
      obtain ⟨output, houtput⟩ := hok
      have hnested : WellNested limits parts := by
        by_contra h
        obtain ⟨before, part, after, rfl, hbounds, hafter⟩ := exists_shortest parts h
        have herror := (refused_of_shortest hafter hbounds before).2.2.symm.trans houtput
        simp at herror
      refine ⟨hnested, ?_⟩
      by_contra hdepth
      have herror := hgo hnested
      simp [hdepth, houtput] at herror
    · intro h
      simpa [h.2] using hgo h.1
  · intro ending state _ hstate
    exact (inStep_of_readAll hstate).depth

/-- Two levels are too many, but the group that does not end comes first from the end. -/
example : PrefixForm.ofParts .builtin { maxNestingDepth := 1 } "a))((" [.other "a", .operator ")",
    .operator ")", .operator "(", .operator "("] =
      .error (.invalidExpression (.rule "a))((")) := by
  decide +kernel

end RuleLang
