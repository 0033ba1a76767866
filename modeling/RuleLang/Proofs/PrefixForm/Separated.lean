import Mathlib.Data.List.Chain
import RuleLang.Proofs.PrefixForm.Reading
import RuleLang.Proofs.Tree.Counts

/-!
# Prefix forms of separated parts

Parts are separated if no operand or group stands directly behind another one. That is far less
than being an infix expression: operators may still miss their operands, and parentheses may not
match.

Main statement: **the prefix form of separated parts is sparse** (`sparse_of_ofParts`), so it never
has parts behind a first complete expression.

The invariant is a layout of the output. What is held back cuts it into pieces, and each piece is
sparse: between two operators no second operand can have come. An operator that is let go makes one
piece of two, with itself in front. A group mark stands where the piece below it is empty, because
a group, too, is an operand.
-/

set_option autoImplicit false

namespace RuleLang

namespace Part

/-- Whether an operand or a group ends with a part. -/
def endsOperand (part : Part) : Bool :=
  match part.paren? with
  | some .closing => true
  | some .opening => false
  | none => !part.isOperator

/-- Whether an operand or a group begins with a part. -/
def beginsOperand (part : Part) : Bool :=
  match part.paren? with
  | some .closing => false
  | some .opening => true
  | none => !part.isOperator

end Part

/-- No operand or group stands directly behind another one. -/
def Separated (parts : List Part) : Prop :=
  parts.IsChain fun p q => ¬ (p.endsOperand = true ∧ q.beginsOperand = true)

instance (parts : List Part) : Decidable (Separated parts) :=
  inferInstanceAs (Decidable (parts.IsChain _))

namespace PrefixForm

/-- The output as the pieces that what is held back cuts it into: `current` is the piece in front,
`below` are the others. -/
inductive Layout : List Part → List Part → List Held → Prop
  | bottom {current : List Part} : Sparse current → Layout current [] []
  | operator {current next below : List Part} {held : List Held} (symbol : String) :
      Sparse current → Layout next below held →
        Layout current (next ++ below) (.operator symbol :: held)
  | group {current below : List Part} {held : List Held} :
      Sparse current → Layout [] below held → Layout current below (.group :: held)

namespace Layout

theorem sparse {current below : List Part} {held : List Held} (h : Layout current below held) :
    Sparse current := by
  cases h with
  | bottom hs | operator _ hs _ | group hs _ => exact hs

theorem replace {current below : List Part} {held : List Held} (h : Layout current below held)
    {current' : List Part} (hs : Sparse current') : Layout current' below held := by
  cases h with
  | bottom _ => exact .bottom hs
  | operator symbol _ hbelow => exact .operator symbol hs hbelow
  | group _ hbelow => exact .group hs hbelow

/-- What is let go joins the two pieces around it. -/
theorem letsGo {output output' : List Part} {held held' : List Held}
    (hgo : LetsGo output held output' held') : ∀ {current below : List Part},
      output = current ++ below → Layout current below held →
        ∃ current' below', output' = current' ++ below' ∧ Layout current' below' held' := by
  induction hgo with
  | refl => exact fun heq h => ⟨_, _, heq, h⟩
  | @step symbol output output' held held' _ ih =>
    rintro current below rfl h
    cases h with
    | @operator _ next below _ _ hs hbelow =>
      have hjoined : Part.operator symbol :: (current ++ (next ++ below)) =
          (.operator symbol :: (current ++ next)) ++ below := by simp
      exact ih hjoined (hbelow.replace (.apply symbol hs hbelow.sparse))

end Layout

variable {table : OperatorTable} {limits : Limits} {source : String}

/-- **The reading of separated parts keeps the layout.** The piece in front is empty unless an
operand or a group was read last, so that is where the next one goes. -/
theorem layout_of_readAll {parts : List Part} {state : State}
    (h : readAll table limits source parts = .ok state) : Separated parts →
      ∃ current below, state.output = current ++ below ∧ Layout current below state.held ∧
        ((∀ q ∈ parts.head?, q.beginsOperand = false) → current = []) := by
  refine readAll_induction (motive := fun parts state => Separated parts →
    ∃ current below, state.output = current ++ below ∧ Layout current below state.held ∧
      ((∀ q ∈ parts.head?, q.beginsOperand = false) → current = [])) ?_ ?_ h
  · exact fun _ => ⟨[], [], rfl, .bottom .nil, fun _ => rfl⟩
  · intro part parts state state' ih hread hsep
    obtain ⟨hhead, hsep⟩ := List.isChain_cons.mp hsep
    obtain ⟨current, below, houtput, hlayout, hempty⟩ := ih hsep
    -- Behind the end of an operand no other one may begin, so the piece in front is empty.
    have hends (h : part.endsOperand = true) : current = [] :=
      hempty fun q hq => Bool.eq_false_iff.mpr fun hbegins => hhead q hq ⟨h, hbegins⟩
    rcases read_cases hread with ⟨closes, _, rfl⟩ | ⟨opens, output', held', hend, rfl⟩ |
      ⟨symbol, rfl, _, rfl⟩ | ⟨plain, noParen, rfl⟩
    · obtain rfl := hends (by rw [Part.endsOperand, closes])
      exact ⟨[], below, houtput, .group .nil hlayout, fun _ => rfl⟩
    · obtain ⟨current', below', houtput', hlayout'⟩ :=
        Layout.letsGo (letsGo_of_endGroup? hend) houtput hlayout
      cases hlayout' with
      | group hs hbelow =>
        refine ⟨current', below', houtput', hbelow.replace hs, fun hno => ?_⟩
        have := hno part rfl
        rw [Part.beginsOperand, opens] at this
        exact absurd this (by simp)
    · obtain ⟨current', below', houtput', hlayout'⟩ :=
        Layout.letsGo (@letsGo_letGoTighter table (table.priority symbol) _ _)
          houtput hlayout
      exact ⟨[], current' ++ below', houtput', .operator symbol .nil hlayout', fun _ => rfl⟩
    · obtain rfl := hends (by rw [Part.endsOperand, noParen, plain]; rfl)
      refine ⟨[part], below, by rw [houtput]; rfl, hlayout.replace (.operand plain), fun hno => ?_⟩
      have := hno part rfl
      rw [Part.beginsOperand, noParen, plain] at this
      exact absurd this (by simp)

/-- **The prefix form of separated parts is sparse.** -/
theorem sparse_of_ofParts {parts output : List Part}
    (h : ofParts table limits source parts = .ok output) (hsep : Separated parts) :
    Sparse output := by
  obtain ⟨state, hread, hall⟩ := ofParts_eq_ok_iff.mp h
  obtain ⟨current, below, houtput, hlayout, _⟩ := layout_of_readAll hread hsep
  obtain ⟨current', below', rfl, hlayout'⟩ :=
    Layout.letsGo (letsGo_of_letGoAll? hall) houtput hlayout
  cases hlayout' with
  | bottom hs => rwa [List.append_nil]

end PrefixForm

end RuleLang
