import Mathlib.Data.List.Forall2
import Mathlib.Data.List.Induction
import RuleLang.Proofs.Evaluation
import RuleLang.Proofs.PrefixForm.Reading
import RuleLang.Proofs.Rule.Acceptance

/-!
# Two rules side by side

What is said of two rules that differ part by part in something that does not matter: they are
brought into prefix form alike (`ofParts_related`), they begin with a tree alike, and they are
evaluated alike (`evaluate_related`). What it is that does not matter is left open, as a relation
between parts. The conversion asks for the parentheses and the priorities to be the same
(`Reads`), the evaluation for the operators to have related results and the operands related
values (`Matches`).

The two runs go in step, so each function of the conversion and of the evaluation is shown to keep
its state related. `Outcome` says what that is for a function that may fail.

The first use is with parts that are the same: a text compiles alike with two tables that cut it
alike and have the same operators for it (`Rule.ofText_congr`).
-/

set_option autoImplicit false

namespace RuleLang

universe u v

/-- Two runs that come to related values, or fail with related errors. -/
inductive Outcome {ε ε' : Type} {α : Type u} {β : Type v} (E : ε → ε' → Prop) (V : α → β → Prop) :
    Except ε α → Except ε' β → Prop
  | ok {a : α} {b : β} : V a b → Outcome E V (.ok a) (.ok b)
  | error {e : ε} {e' : ε'} : E e e' → Outcome E V (.error e) (.error e')

theorem Outcome.bind {ε ε' : Type} {α α' β β' : Type u} {E : ε → ε' → Prop} {V : α → α' → Prop}
    {W : β → β' → Prop} {x : Except ε α} {x' : Except ε' α'} {f : α → Except ε β}
    {f' : α' → Except ε' β'} (h : Outcome E V x x')
    (hf : ∀ {a a'}, V a a' → Outcome E W (f a) (f' a')) : Outcome E W (x >>= f) (x' >>= f') := by
  cases h with
  | ok hv => exact hf hv
  | error he => exact .error he

theorem Outcome.imp {ε ε' : Type} {α : Type u} {β : Type v} {E E' : ε → ε' → Prop}
    {V V' : α → β → Prop} {x : Except ε α} {x' : Except ε' β} (h : Outcome E V x x')
    (hE : ∀ {e e'}, E e e' → E' e e') (hV : ∀ {a b}, V a b → V' a b) : Outcome E' V' x x' := by
  cases h with
  | ok hv => exact .ok (hV hv)
  | error he => exact .error (hE he)

theorem Outcome.eq {ε : Type} {α : Type u} {x x' : Except ε α} (h : Outcome Eq Eq x x') :
    x = x' := by
  cases h with
  | ok hv => rw [hv]
  | error he => rw [he]

theorem Outcome.refl {ε : Type} {α : Type u} (x : Except ε α) : Outcome Eq Eq x x := by
  cases x with
  | ok a => exact .ok rfl
  | error e => exact .error rfl

section Ok

variable {ε ε' : Type} {α : Type u} {β : Type v} {E : ε → ε' → Prop} {V : α → β → Prop} {a : α}
  {b : β}

theorem Outcome.of_ok (h : Outcome E V (.ok a) (.ok b)) : V a b := by
  cases h with
  | ok hv => exact hv

theorem Outcome.exists_right {x' : Except ε' β} (h : Outcome E V (.ok a) x') :
    ∃ b, x' = .ok b ∧ V a b := by
  cases h with
  | ok hv => exact ⟨_, rfl, hv⟩

theorem Outcome.exists_left {x : Except ε α} (h : Outcome E V x (.ok b)) :
    ∃ a, x = .ok a ∧ V a b := by
  cases h with
  | ok hv => exact ⟨_, rfl, hv⟩

end Ok

variable {R : Part → Part → Prop}

/-! ## Prefix forms -/

namespace PrefixForm

/-- The conversion cannot tell related parts from each other: they are the same parenthesis or none,
and operators of one priority or both operands. -/
structure Reads (table table' : OperatorTable) (R : Part → Part → Prop) : Prop where
  paren : ∀ {part part'}, R part part' → part.paren? = part'.paren?
  operator : ∀ {symbol part'}, R (.operator symbol) part' →
    ∃ symbol', part' = .operator symbol' ∧ table.priority symbol = table'.priority symbol'
  operand : ∀ {part part'}, R part part' → part.isOperator = false → part'.isOperator = false

theorem Reads.flip {table table' : OperatorTable} (hR : Reads table table' R) :
    Reads table' table (flip R) where
  paren h := (hR.paren h).symm
  operator {symbol part} h := by
    cases part with
    | operator symbol' =>
      obtain ⟨_, heq, hpriority⟩ := hR.operator h
      obtain rfl := Part.operator.inj heq
      exact ⟨symbol', rfl, hpriority.symm⟩
    | text _ | field _ | other _ => exact absurd (hR.operand h rfl) (by simp [Part.isOperator])
  operand {part' part} h plain := by
    cases part with
    | operator symbol =>
      obtain ⟨_, rfl, _⟩ := hR.operator h
      exact absurd plain (by simp [Part.isOperator])
    | text _ | field _ | other _ => rfl

inductive HeldRelated (R : Part → Part → Prop) : Held → Held → Prop
  | operator {symbol symbol' : String} : R (.operator symbol) (.operator symbol') →
      HeldRelated R (.operator symbol) (.operator symbol')
  | group : HeldRelated R .group .group

/-- Outputs that are related part by part, and what is held back with them as well. -/
structure Related (R : Part → Part → Prop) (state state' : List Part × List Held) : Prop where
  output : List.Forall₂ R state.1 state'.1
  held : List.Forall₂ (HeldRelated R) state.2 state'.2

/-- Errors that say the same of two sources. -/
inductive SameFault (source source' : String) : RuleError → RuleError → Prop
  | same (e : RuleError) : SameFault source source' e e
  | invalid : SameFault source source' (.invalidExpression (.rule source))
      (.invalidExpression (.rule source'))

/-- Of one source they are the same error. -/
theorem SameFault.eq {source : String} {e e' : RuleError} (h : SameFault source source e e') :
    e = e' := by
  cases h <;> rfl

variable {table table' : OperatorTable} {limits : Limits} {source source' : String}
  {held held' : List Held}

theorem letGoTighter_related (hR : Reads table table' R) (priority : Int)
    (hheld : List.Forall₂ (HeldRelated R) held held') :
    ∀ {output output' : List Part}, List.Forall₂ R output output' →
      Related R (letGoTighter table priority output held)
        (letGoTighter table' priority output' held') := by
  induction hheld with
  | nil => exact fun houtput => ⟨houtput, .nil⟩
  | cons htop hheld ih =>
    intro output output' houtput
    cases htop with
    | group => exact ⟨houtput, .cons .group hheld⟩
    | operator hsymbol =>
      obtain ⟨_, heq, hpriority⟩ := hR.operator hsymbol
      obtain rfl := Part.operator.inj heq
      rw [letGoTighter, letGoTighter, ← hpriority]
      split
      · exact ih (.cons hsymbol houtput)
      · exact ⟨houtput, .cons (.operator hsymbol) hheld⟩

theorem endGroup?_related (hheld : List.Forall₂ (HeldRelated R) held held') :
    ∀ {output output' : List Part}, List.Forall₂ R output output' →
      Option.Rel (Related R) (endGroup? output held) (endGroup? output' held') := by
  induction hheld with
  | nil => exact fun _ => .none
  | cons htop hheld ih =>
    intro output output' houtput
    cases htop with
    | group => exact .some ⟨houtput, hheld⟩
    | operator hsymbol => exact ih (.cons hsymbol houtput)

theorem letGoAll?_related (hheld : List.Forall₂ (HeldRelated R) held held') :
    ∀ {output output' : List Part}, List.Forall₂ R output output' →
      Option.Rel (List.Forall₂ R) (letGoAll? output held) (letGoAll? output' held') := by
  induction hheld with
  | nil => exact fun houtput => .some houtput
  | cons htop hheld ih =>
    intro output output' houtput
    cases htop with
    | group => exact .none
    | operator hsymbol => exact ih (.cons hsymbol houtput)

structure StateRelated (R : Part → Part → Prop) (state state' : State) : Prop where
  rows : Related R (state.output, state.held) (state'.output, state'.held)
  depth : state.depth = state'.depth

theorem read_related (hR : Reads table table' R) {part part' : Part} (hpart : R part part')
    {state state' : State} (hstate : StateRelated R state state') :
    Outcome (SameFault source source') (StateRelated R) (read table limits source part state)
      (read table' limits source' part' state') := by
  have hparen' := hR.paren hpart
  match hparen : part.paren? with
  | some .closing =>
    rw [hparen] at hparen'
    by_cases hdepth : state.depth < limits.maxNestingDepth
    · rw [read_closing hparen hdepth, read_closing hparen'.symm (hstate.depth ▸ hdepth)]
      exact .ok ⟨⟨hstate.rows.output, .cons .group hstate.rows.held⟩,
        congrArg (· + 1) hstate.depth⟩
    · rw [Nat.not_lt] at hdepth
      rw [read_closing_deep hparen hdepth, read_closing_deep hparen'.symm (hstate.depth ▸ hdepth),
        hstate.depth]
      exact .error (.same _)
  | some .opening =>
    rw [hparen] at hparen'
    have hend := endGroup?_related hstate.rows.held hstate.rows.output
    generalize hended : endGroup? state.output state.held = ended at hend
    generalize hended' : endGroup? state'.output state'.held = ended' at hend
    cases hend with
    | none =>
      rw [read_opening_unmatched hparen hended, read_opening_unmatched hparen'.symm hended']
      exact .error .invalid
    | some hrelated =>
      rw [read_opening hparen hended, read_opening hparen'.symm hended']
      exact .ok ⟨hrelated, congrArg (· - 1) hstate.depth⟩
  | none =>
    rw [hparen] at hparen'
    cases hoperator : part.isOperator with
    | false =>
      rw [read_operand hoperator hparen, read_operand (hR.operand hpart hoperator) hparen'.symm]
      exact .ok ⟨⟨.cons hpart hstate.rows.output, hstate.rows.held⟩, hstate.depth⟩
    | true =>
      cases part with
      | operator symbol =>
        obtain ⟨symbol', rfl, hpriority⟩ := hR.operator hpart
        have hgo := letGoTighter_related hR (table.priority symbol) hstate.rows.held
          hstate.rows.output
        rw [read_operator hparen, read_operator hparen'.symm, ← hpriority]
        exact .ok ⟨⟨hgo.output, .cons (.operator hpart) hgo.held⟩, hstate.depth⟩
      | text _ | field _ | other _ => exact absurd hoperator (by simp [Part.isOperator])

theorem readAll_related (hR : Reads table table' R) {parts parts' : List Part}
    (h : List.Forall₂ R parts parts') :
    Outcome (SameFault source source') (StateRelated R) (readAll table limits source parts)
      (readAll table' limits source' parts') := by
  induction h with
  | nil => exact .ok ⟨⟨.nil, .nil⟩, rfl⟩
  | cons hpart _ ih => exact ih.bind fun hstate => read_related hR hpart hstate

/-- **Related parts have related prefix forms**, or none for the same reason. -/
theorem ofParts_related (hR : Reads table table' R) {parts parts' : List Part}
    (h : List.Forall₂ R parts parts') :
    Outcome (SameFault source source') (List.Forall₂ R) (ofParts table limits source parts)
      (ofParts table' limits source' parts') := by
  refine (readAll_related hR h).bind fun {state state'} hstate => ?_
  have hall := letGoAll?_related hstate.rows.held hstate.rows.output
  generalize letGoAll? state.output state.held = all at hall ⊢
  generalize letGoAll? state'.output state'.held = all' at hall ⊢
  cases hall with
  | none => exact .error .invalid
  | some houtput => exact .ok houtput

end PrefixForm

/-! ## Trees -/

variable {table table' : OperatorTable}

/-- A sequence begins with a tree where a related one does. -/
theorem Tree.exists_parts_of_related (hR : PrefixForm.Reads table table' R) (t : Tree) :
    ∀ {rest sequence' : List Part}, List.Forall₂ R (t.parts ++ rest) sequence' →
      ∃ (t' : Tree) (rest' : List Part), sequence' = t'.parts ++ rest' ∧
        List.Forall₂ R rest rest' := by
  induction t with
  | operand part plain =>
    intro rest sequence' h
    obtain ⟨part', rest', hpart, hrest, rfl⟩ := List.forall₂_cons_left_iff.mp h
    exact ⟨.operand part' (hR.operand hpart plain), rest', rfl, hrest⟩
  | apply symbol left right ihl ihr =>
    intro rest sequence' h
    rw [parts, List.cons_append, List.append_assoc] at h
    obtain ⟨part', below', hpart, hbelow, rfl⟩ := List.forall₂_cons_left_iff.mp h
    obtain ⟨symbol', rfl, _⟩ := hR.operator hpart
    obtain ⟨left', _, rfl, hbehind⟩ := ihl hbelow
    obtain ⟨right', rest', rfl, hrest⟩ := ihr hbehind
    exact ⟨.apply symbol' left' right', rest', by simp [parts], hrest⟩

theorem beginsWithApplication_of_related (hR : PrefixForm.Reads table table' R)
    {sequence sequence' : List Part} (h : List.Forall₂ R sequence sequence')
    (hbegins : BeginsWithApplication sequence) : BeginsWithApplication sequence' := by
  obtain ⟨symbol, left, right, rest, rfl⟩ := hbegins
  obtain ⟨t', rest', rfl, _⟩ := Tree.exists_parts_of_related hR (.apply symbol left right) h
  cases t' with
  | apply symbol' left' right' => exact ⟨symbol', left', right', rest', rfl⟩
  | operand part' plain' =>
    obtain ⟨hpart, _⟩ := List.forall₂_cons.mp h
    obtain ⟨_, rfl, _⟩ := hR.operator hpart
    exact absurd plain' (by simp [Part.isOperator])

theorem beginsWithApplication_iff_of_related (hR : PrefixForm.Reads table table' R)
    {sequence sequence' : List Part} (h : List.Forall₂ R sequence sequence') :
    BeginsWithApplication sequence ↔ BeginsWithApplication sequence' :=
  ⟨beginsWithApplication_of_related hR h, beginsWithApplication_of_related hR.flip (.flip h)⟩

/-! ## Evaluation -/

namespace Evaluate

variable {V : Value → Value → Prop} {bound bound' : OperatorSet} {record record' : Record}

/-- Symbols whose operators make related values of related operands, or fail alike. -/
def Applies (V : Value → Value → Prop) (bound bound' : OperatorSet) (symbol symbol' : String) :
    Prop :=
  ∀ {left left' right right'}, V left left' → V right right' →
    Outcome Eq V (applySymbol bound symbol left right) (applySymbol bound' symbol' left' right')

theorem applies_self (bound : OperatorSet) (symbol : String) :
    Applies Eq bound bound symbol symbol := by
  rintro left _ right _ rfl rfl
  exact .refl _

/-- Parts that are evaluated alike: symbols of such operators, and operands that stand for related
values. -/
inductive Matches (V : Value → Value → Prop) (bound bound' : OperatorSet)
    (record record' : Record) : Part → Part → Prop
  | operator {symbol symbol' : String} : Applies V bound bound' symbol symbol' →
      Matches V bound bound' record record' (.operator symbol) (.operator symbol')
  | operand {part part' : Part} : part.isOperator = false → part'.isOperator = false →
      V (operandValue record part) (operandValue record' part') →
        Matches V bound bound' record record' part part'

inductive WaitingRelated (V : Value → Value → Prop) (bound bound' : OperatorSet) :
    Waiting → Waiting → Prop
  | operator {symbol symbol' : String} : Applies V bound bound' symbol symbol' →
      WaitingRelated V bound bound' (.operator symbol) (.operator symbol')
  | operand {value value' : Value} : V value value' →
      WaitingRelated V bound bound' (.operand value) (.operand value')

inductive ProgressRelated (V : Value → Value → Prop) (bound bound' : OperatorSet) :
    Progress → Progress → Prop
  | result {value value' : Value} : V value value' →
      ProgressRelated V bound bound' (.result value) (.result value')
  | waiting {stack stack' : List Waiting} :
      List.Forall₂ (WaitingRelated V bound bound') stack stack' →
        ProgressRelated V bound bound' (.waiting stack) (.waiting stack')

theorem complete_related (stack : List Waiting) : ∀ {stack' : List Waiting} {right right' : Value},
    List.Forall₂ (WaitingRelated V bound bound') stack stack' → V right right' →
      Outcome Eq (ProgressRelated V bound bound') (complete bound right stack)
        (complete bound' right' stack') := by
  induction stack using List.twoStepInduction with
  | nil =>
    intro stack' right right' hstack _
    cases hstack with
    | nil => exact .error rfl
  | singleton top =>
    intro stack' right right' hstack _
    cases hstack with
    | cons htop hnil =>
      cases hnil with
      | nil => cases htop <;> exact .error rfl
  | cons_cons top next stack ih _ =>
    intro stack' right right' hstack hright
    cases hstack with
    | cons htop hstack =>
      cases hstack with
      | cons hnext hstack =>
        cases htop with
        | operator _ => exact .error rfl
        | operand hleft =>
          cases hnext with
          | operand _ => exact .error rfl
          | operator happlies =>
            rw [complete, complete]
            refine (happlies hleft hright).bind fun hvalue => ?_
            -- Nothing waits below, or the value is a left operand there, or a right one.
            cases hstack with
            | nil => exact .ok (.result hvalue)
            | cons hbelow hstack =>
              cases hbelow with
              | operator hbelow =>
                exact .ok (.waiting (.cons (.operand hvalue) (.cons (.operator hbelow) hstack)))
              | operand hbelow => exact ih (.cons (.operand hbelow) hstack) hvalue

theorem takeOperand_related {stack stack' : List Waiting}
    (hstack : List.Forall₂ (WaitingRelated V bound bound') stack stack') {value value' : Value}
    (hvalue : V value value') :
    Outcome Eq (ProgressRelated V bound bound') (takeOperand bound value stack)
      (takeOperand bound' value' stack') := by
  have hcomplete := complete_related stack hstack hvalue
  cases hstack with
  | nil => exact hcomplete
  | cons htop hbelow =>
    cases htop with
    | operator htop =>
      exact .ok (.waiting (.cons (.operand hvalue) (.cons (.operator htop) hbelow)))
    | operand htop => exact hcomplete

theorem run_related {parts parts' : List Part}
    (h : List.Forall₂ (Matches V bound bound' record record') parts parts') :
    ∀ {stack stack' : List Waiting},
      List.Forall₂ (WaitingRelated V bound bound') stack stack' →
        Outcome Eq V (run bound record stack parts) (run bound' record' stack' parts') := by
  induction h with
  | nil =>
    intro stack stack' _
    rw [run, run]
    exact .error rfl
  | cons hpart _ ih =>
    intro stack stack' hstack
    cases hpart with
    | operator happlies =>
      rw [run, run]
      exact ih (.cons (.operator happlies) hstack)
    | operand plain plain' hvalue =>
      rw [run_operand plain, run_operand plain']
      refine (takeOperand_related hstack hvalue).bind fun hprogress => ?_
      cases hprogress with
      | result hresult => exact .ok hresult
      | waiting hwaiting => exact ih hwaiting

end Evaluate

/-- **Sequences that match part by part are evaluated alike**: to related values, or to one
error. -/
theorem evaluate_related {V : Value → Value → Prop} {bound bound' : OperatorSet}
    {record record' : Record} {sequence sequence' : List Part}
    (h : List.Forall₂ (Evaluate.Matches V bound bound' record record') sequence sequence') :
    Outcome Eq V (evaluate bound record sequence) (evaluate bound' record' sequence') :=
  Evaluate.run_related h .nil

/-! ## One table in place of another -/

/-- A part and itself, if two tables have one operator for it. -/
def SamePart (table table' : OperatorTable) (part part' : Part) : Prop :=
  part = part' ∧ ∀ symbol, part = .operator symbol → table.get? symbol = table'.get? symbol

theorem reads_samePart : PrefixForm.Reads table table' (SamePart table table') where
  paren hpart := congrArg Part.paren? hpart.1
  operator {symbol part'} hpart := by
    obtain ⟨rfl, hget⟩ := hpart
    refine ⟨symbol, rfl, ?_⟩
    rw [OperatorTable.priority, OperatorTable.priority, hget symbol rfl]
  operand hpart plain := hpart.1 ▸ plain

/-- **A text compiles alike with two tables that cut it alike** and have the same operators for the
symbols in it. -/
theorem Rule.ofText_congr (limits : Limits) {source : String}
    (hsegment : table.segment source = table'.segment source)
    (hget : ∀ symbol, .operator symbol ∈ table.segment source →
      table.get? symbol = table'.get? symbol) :
    Rule.ofText table limits source = Rule.ofText table' limits source := by
  have hparts : List.Forall₂ (SamePart table table') (table.segment source)
      (table'.segment source) := by
    rw [← hsegment]
    exact List.forall₂_same.mpr fun part hpart => ⟨rfl, fun symbol h => hget symbol (h ▸ hpart)⟩
  have hforms : Outcome (PrefixForm.SameFault source source) (List.Forall₂ (SamePart table table'))
      (PrefixForm.ofParts table limits source (table.segment source))
      (PrefixForm.ofParts table' limits source (table'.segment source)) :=
    PrefixForm.ofParts_related reads_samePart hparts
  refine Outcome.eq ((hforms.imp PrefixForm.SameFault.eq id).bind ?_)
  intro sequence sequence' hsequence
  obtain rfl : sequence = sequence' := by
    simpa using hsequence.imp fun _ _ hpart => hpart.1
  have hbindings : table.bindings sequence = table'.bindings sequence :=
    OperatorTable.bindings_congr fun symbol hmem =>
      (List.forall₂_same.mp hsequence _ hmem).2 symbol rfl
  rw [hbindings]
  exact Outcome.refl _

end RuleLang
