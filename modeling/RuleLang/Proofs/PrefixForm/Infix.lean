import RuleLang.Proofs.Infix
import RuleLang.Proofs.PrefixForm.Reading

/-!
# The prefix form of an infix expression

Main statement: **an infix expression whose groups do not nest too deep has a prefix form, and it is
that of its conventional tree** (`ofParts_infix_parts`).

The invariant of the reading is about one group at a time. Above the mark of the group, or above
nothing, the operators held back are `heldLinks` of what was read of the group, and the output
begins with the trees between them. A part of the group changes what is above the mark only, and
the end of the group leaves one tree there; so what a group does can be said of any state it is
read in (`readAll_infix`, `readAll_atom`).
-/

set_option autoImplicit false

namespace RuleLang.PrefixForm

/-! ## What letting go does to the operators of a group -/

def heldOf (links : List Link) : List Held := links.map fun link => .operator link.symbol

/-- The prefix forms of the trees that the operators of a group stand before. -/
def outputOf (links : List Link) : List Part := links.flatMap fun link => link.right.parts

/-- Whether what is held back belongs to no operator of the group that is read. -/
def Closed (held : List Held) : Prop := ∀ symbol rest, held ≠ .operator symbol :: rest

theorem closed_nil : Closed [] := fun _ _ => by simp

theorem closed_group (held : List Held) : Closed (.group :: held) := fun _ _ => by simp

variable {table : OperatorTable} {limits : Limits} {source : String}

theorem letGoTighter_of_closed (priority : Int) (output : List Part) {held : List Held}
    (h : Closed held) : letGoTighter table priority output held = (output, held) := by
  match held with
  | [] | .group :: _ => rfl
  | .operator symbol :: rest => exact absurd rfl (h symbol rest)

/-- Letting go the tighter operators of a group is absorbing them. -/
theorem letGoTighter_heldOf (priority : Int) {held : List Held} (h : Closed held)
    (output : List Part) (links : List Link) : ∀ (t : Tree),
      letGoTighter table priority (t.parts ++ (outputOf links ++ output)) (heldOf links ++ held) =
        ((absorb table priority t links).1.parts ++
          (outputOf (absorb table priority t links).2 ++ output),
         heldOf (absorb table priority t links).2 ++ held) := by
  induction links with
  | nil =>
    intro t
    exact letGoTighter_of_closed priority _ h
  | cons link links ih =>
    intro t
    have hoperator : heldOf (link :: links) ++ held =
        .operator link.symbol :: (heldOf links ++ held) := rfl
    rw [hoperator, letGoTighter]
    by_cases hlt : table.priority link.symbol < priority
    · have htighter : link.priority table < priority := hlt
      rw [if_pos hlt, absorb_of_lt htighter, ← ih]
      simp [outputOf, Tree.parts]
    · have hlooser : priority ≤ link.priority table := Int.not_lt.mp hlt
      rw [if_neg hlt, absorb_of_le hlooser]
      rfl

theorem endGroup?_heldOf (held : List Held) (output : List Part) (links : List Link) :
    ∀ (t : Tree),
      endGroup? (t.parts ++ (outputOf links ++ output)) (heldOf links ++ .group :: held) =
        some ((applyAll t links).parts ++ output, held) := by
  induction links with
  | nil => exact fun _ => rfl
  | cons link links ih =>
    intro t
    have h := ih (.apply link.symbol t link.right)
    simpa [outputOf, heldOf, Tree.parts, endGroup?, applyAll] using h

theorem letGoAll?_heldOf (links : List Link) : ∀ (t : Tree),
    letGoAll? (t.parts ++ outputOf links) (heldOf links) = some (applyAll t links).parts := by
  induction links with
  | nil =>
    intro t
    simp [outputOf, heldOf, letGoAll?, applyAll]
  | cons link links ih =>
    intro t
    have h := ih (.apply link.symbol t link.right)
    simpa [outputOf, heldOf, Tree.parts, letGoAll?, applyAll] using h

/-! ## Reading an expression -/

mutual

/-- **Reading an atom puts its tree in front of the output**, and changes nothing else. -/
theorem readAll_atom : ∀ (atom : Atom) {after : List Part} {state : State},
    readAll table limits source after = .ok state →
      state.depth + atom.depth ≤ limits.maxNestingDepth →
        readAll table limits source (atom.parts ++ after) =
          .ok { state with output := (atom.tree table).parts ++ state.output }
  | .operand part plain noParen, after, state, h, _ => by
    rw [Atom.parts, List.singleton_append, readAll_cons part h, read_operand plain noParen]
    rfl
  | .group opening closing opens closes inner, after, state, h, hdepth => by
    rw [Atom.depth] at hdepth
    have hclosing : readAll table limits source (closing :: after) =
        .ok { state with held := .group :: state.held, depth := state.depth + 1 } := by
      rw [readAll_cons closing h, read_closing closes (by omega)]
    have hinner := readAll_infix inner hclosing (closed_group state.held)
      (show state.depth + 1 + inner.depth ≤ limits.maxNestingDepth by omega)
    have hparts : (Atom.group opening closing opens closes inner).parts ++ after =
        opening :: (inner.parts ++ closing :: after) := by
      rw [Atom.parts, List.cons_append, List.append_assoc, List.singleton_append]
    rw [hparts, readAll_cons opening hinner, read_opening opens (endGroup?_heldOf ..),
      applyAll_heldLinks, Atom.tree]
    rfl

/-- **Reading a group so far**: the operators held back are those of the group that wait for their
left operand, and the output begins with the trees between them. -/
theorem readAll_infix : ∀ (e : Infix) {after : List Part} {state : State},
    readAll table limits source after = .ok state → Closed state.held →
      state.depth + e.depth ≤ limits.maxNestingDepth →
        readAll table limits source (e.parts ++ after) =
          .ok { state with
            output := (e.first table).parts ++
              (outputOf (heldLinks table (e.links table)) ++ state.output)
            held := heldOf (heldLinks table (e.links table)) ++ state.held }
  | .last atom, after, state, h, _, hdepth => readAll_atom atom h hdepth
  | .link atom symbol noParen rest, after, state, h, hclosed, hdepth => by
    rw [Infix.depth] at hdepth
    have hrest := readAll_infix rest h hclosed (by omega)
    have hoperator := (readAll_cons (.operator symbol) hrest).trans (read_operator noParen _)
    rw [letGoTighter_heldOf (table.priority symbol) hclosed] at hoperator
    have hparts : (Infix.link atom symbol noParen rest).parts ++ after =
        atom.parts ++ .operator symbol :: (rest.parts ++ after) := by
      rw [Infix.parts, List.append_assoc, List.cons_append]
    rw [hparts, readAll_atom atom hoperator (show state.depth + atom.depth ≤ _ by omega)]
    simp [Infix.first, Infix.links, heldLinks_cons, outputOf, heldOf, Link.priority]

end

/-- **The prefix form of an infix expression is that of its conventional tree**: in every group the
rightmost of the loosest operators is the root. -/
theorem ofParts_infix_parts (table : OperatorTable) (limits : Limits) (source : String) (e : Infix)
    (h : e.depth ≤ limits.maxNestingDepth) :
    ofParts table limits source e.parts = .ok (e.tree table).parts := by
  have hstart : readAll table limits source [] = .ok {} := rfl
  have hread := readAll_infix e hstart closed_nil (by simpa using h)
  have hall : letGoAll? ((e.first table).parts ++ outputOf (heldLinks table (e.links table)))
      (heldOf (heldLinks table (e.links table))) = some (e.tree table).parts := by
    rw [letGoAll?_heldOf, applyAll_heldLinks, Infix.tree]
  rw [List.append_nil, List.append_nil, List.append_nil] at hread
  rw [ofParts, hread]
  simp only [bind, Except.bind, hall]

/-- The parts of `8 - (4 + 2) * 3 - 1`: a chain of equal priorities around a tighter operator and
a group. -/
def nested : Infix :=
  let number (literal : String) (noParen : Part.parenOf? literal = none) : Atom :=
    .operand (.other literal) rfl noParen
  let sum : Infix := .link (number "4" rfl) "+" rfl (.last (number "2" rfl))
  .link (number "8" rfl) "-" rfl
    (.link (.group (.operator "(") (.operator ")") rfl rfl sum) "*" rfl
      (.link (number "3" rfl) "-" rfl (.last (number "1" rfl))))

theorem ofParts_nested :
    nested.depth ≤ 1 ∧
      ofParts .builtin { maxNestingDepth := 1 } "8 - (4 + 2) * 3 - 1" nested.parts =
        .ok [.operator "-", .operator "-", .other "8", .operator "*", .operator "+", .other "4",
          .other "2", .other "3", .other "1"] := by
  have hminus : OperatorTable.builtin.priority "-" = 0 := rfl
  have hplus : OperatorTable.builtin.priority "+" = 0 := rfl
  have htimes : OperatorTable.builtin.priority "*" = -1 := rfl
  have hdepth : nested.depth ≤ 1 := by decide
  refine ⟨hdepth, ?_⟩
  rw [ofParts_infix_parts .builtin { maxNestingDepth := 1 } _ nested hdepth]
  simp [nested, Infix.tree, Infix.first, Infix.links, Atom.tree, groupTree, loosest?,
    Link.priority, hminus, hplus, htimes, Tree.parts]

end RuleLang.PrefixForm
