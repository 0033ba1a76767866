import RuleLang.Proofs.PrefixForm.Reading

/-!
# A prefix form is a rearrangement

Whatever parts are brought into prefix form, well formed or not: **their operands stay as they are,
in their order, and their operators are only moved** (`operands_of_ofParts`,
`operators_of_ofParts`). No part is lost but the parentheses, and none comes twice. In particular
the fields of a prefix form are those of the parts, in the order in which they are written
(`fieldsOf_of_ofParts`).

The invariant speaks of the operands in the output and of the operators there and in what is held
back (`Rearranged`). To let an operator go does not touch the former, and puts one of the latter
from the one place to the other.
-/

set_option autoImplicit false

namespace RuleLang

/-! ## Operands and operators -/

/-- The operands among some parts. A parenthesis is not one, however it is given. -/
def operandsOf (parts : List Part) : List Part :=
  parts.filter fun part => !part.isOperator && part.paren?.isNone

/-- The operators among some parts that are not parentheses. -/
def operatorsOf (parts : List Part) : List Part :=
  parts.filter fun part => part.isOperator && part.paren?.isNone

section Kinds

variable {part : Part}

theorem operandsOf_operand (plain : part.isOperator = false) (noParen : part.paren? = none)
    (parts : List Part) : operandsOf (part :: parts) = part :: operandsOf parts := by
  simp [operandsOf, plain, noParen]

theorem operandsOf_operator (symbol : String) (parts : List Part) :
    operandsOf (.operator symbol :: parts) = operandsOf parts := by
  simp [operandsOf, Part.isOperator]

theorem operandsOf_paren {paren : Paren} (h : part.paren? = some paren) (parts : List Part) :
    operandsOf (part :: parts) = operandsOf parts := by
  simp [operandsOf, h]

theorem operatorsOf_operand (plain : part.isOperator = false) (parts : List Part) :
    operatorsOf (part :: parts) = operatorsOf parts := by
  simp [operatorsOf, plain]

theorem operatorsOf_operator {symbol : String} (noParen : Part.parenOf? symbol = none)
    (parts : List Part) :
    operatorsOf (.operator symbol :: parts) = .operator symbol :: operatorsOf parts := by
  simp [operatorsOf, Part.isOperator, Part.paren?, noParen]

theorem operatorsOf_paren {paren : Paren} (h : part.paren? = some paren) (parts : List Part) :
    operatorsOf (part :: parts) = operatorsOf parts := by
  simp [operatorsOf, h]

/-- Fields are operands, so they are found among the operands. -/
theorem filterMap_field?_operandsOf (parts : List Part) :
    (operandsOf parts).filterMap Part.field? = parts.filterMap Part.field? := by
  rw [operandsOf, List.filterMap_filter]
  congr 1
  funext part
  cases part <;> simp [Part.isOperator, Part.paren?, Part.field?]

end Kinds

namespace PrefixForm

/-- The operators that are held back. -/
def heldOperators (held : List Held) : List Part :=
  held.filterMap fun
    | .operator symbol => some (.operator symbol)
    | .group => none

@[simp] theorem heldOperators_operator (symbol : String) (held : List Held) :
    heldOperators (.operator symbol :: held) = .operator symbol :: heldOperators held := rfl

@[simp] theorem heldOperators_group (held : List Held) :
    heldOperators (.group :: held) = heldOperators held := rfl

/-! ## Letting go -/

variable {output output' : List Part} {held held' : List Held}

/-- The operators in an output, and those still held back. -/
def allOperators (output : List Part) (held : List Held) : List Part :=
  output.filter Part.isOperator ++ heldOperators held

theorem LetsGo.operands (h : LetsGo output held output' held') :
    output'.filter (!Part.isOperator ·) = output.filter (!Part.isOperator ·) := by
  induction h with
  | refl => rfl
  | step _ ih => simpa [Part.isOperator] using ih

theorem LetsGo.operators (h : LetsGo output held output' held') :
    (allOperators output' held').Perm (allOperators output held) := by
  induction h with
  | refl => exact .refl _
  | @step symbol output output' held held' _ ih =>
    have hmove : (allOperators (.operator symbol :: output) held).Perm
        (allOperators output (.operator symbol :: held)) := by
      rw [allOperators, List.filter_cons_of_pos rfl]
      exact List.perm_middle.symm
    exact ih.trans hmove

/-! ## Reading -/

/-- Some parts, and where they are after they were read. -/
structure Rearranged (parts : List Part) (state : State) : Prop where
  operands : state.output.filter (!Part.isOperator ·) = operandsOf parts
  operators : (allOperators state.output state.held).Perm (operatorsOf parts)

variable {table : OperatorTable} {limits : Limits} {source : String} {parts : List Part}

theorem Rearranged.read {part : Part} {state state' : State} (h : Rearranged parts state)
    (hread : read table limits source part state = .ok state') :
    Rearranged (part :: parts) state' := by
  obtain ⟨hoperands, hoperators⟩ := h
  rcases read_cases hread with ⟨closes, _, rfl⟩ | ⟨opens, output, held, hend, rfl⟩ |
    ⟨symbol, rfl, noParen, rfl⟩ | ⟨plain, noParen, rfl⟩
  · constructor
    · simpa [operandsOf_paren closes] using hoperands
    · simpa [operatorsOf_paren closes, allOperators] using hoperators
  · have hgo := letsGo_of_endGroup? hend
    constructor
    · rw [operandsOf_paren opens, ← hoperands]
      exact hgo.operands
    · rw [operatorsOf_paren opens]
      exact hgo.operators.trans hoperators
  · have hgo := @letsGo_letGoTighter table (table.priority symbol) state.held state.output
    constructor
    · rw [operandsOf_operator, ← hoperands]
      exact hgo.operands
    · rw [operatorsOf_operator noParen]
      exact List.perm_middle.trans ((hgo.operators.trans hoperators).cons _)
  · constructor
    · simpa [operandsOf_operand plain noParen, plain] using hoperands
    · simpa [operatorsOf_operand plain, allOperators, plain] using hoperators

theorem rearranged_of_readAll {state : State} (h : readAll table limits source parts = .ok state) :
    Rearranged parts state := by
  refine readAll_induction (motive := Rearranged) ⟨rfl, .refl _⟩ ?_ h
  intro part parts state state' hrearranged hread
  exact hrearranged.read hread

/-! ## Prefix forms -/

/-- **The operands stay as they are, in their order.** -/
theorem operands_of_ofParts (h : ofParts table limits source parts = .ok output) :
    output.filter (!Part.isOperator ·) = operandsOf parts := by
  obtain ⟨state, hread, hall⟩ := ofParts_eq_ok_iff.mp h
  rw [(letsGo_of_letGoAll? hall).operands]
  exact (rearranged_of_readAll hread).operands

/-- **The operators are only moved.** -/
theorem operators_of_ofParts (h : ofParts table limits source parts = .ok output) :
    (output.filter Part.isOperator).Perm (operatorsOf parts) := by
  obtain ⟨state, hread, hall⟩ := ofParts_eq_ok_iff.mp h
  have hgo := (letsGo_of_letGoAll? hall).operators.trans (rearranged_of_readAll hread).operators
  simpa [allOperators, heldOperators] using hgo

theorem fieldsOf_of_ofParts (h : ofParts table limits source parts = .ok output) :
    Part.fieldsOf output = Part.fieldsOf parts := by
  have houtput : operandsOf output = output.filter (!Part.isOperator ·) := by
    refine List.filter_congr fun part hpart => ?_
    simp [(mem_of_ofParts h hpart).2]
  rw [Part.fieldsOf, Part.fieldsOf, ← filterMap_field?_operandsOf output, houtput,
    operands_of_ofParts h, filterMap_field?_operandsOf]

end PrefixForm

end RuleLang
