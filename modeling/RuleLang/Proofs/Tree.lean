import RuleLang.Part

/-!
# Expression trees

What a sequence in prefix form stands for. A tree is an operand, or an operator with a left and a
right subtree; its `parts` are its prefix form. Every part that is not an operator counts as an
operand here, a parenthesis spelled as a bare literal included: that is how evaluation sees them.

Main statements: a sequence begins with at most one prefix form (`parts_append_cancel`), and a row
of trees can be told from their prefix forms (`row?_eq_some_iff`). The row is read from its last
part to its first, which needs no look-ahead: an operator takes the first two trees that are there.
-/

set_option autoImplicit false

namespace RuleLang

/-- An operand, or an operator applied to two trees. -/
inductive Tree where
  | operand (part : Part) (plain : part.isOperator = false)
  | apply (symbol : String) (left right : Tree)
deriving DecidableEq, Repr

namespace Tree

/-- The prefix form of a tree: an operator stands before its operands. -/
def parts : Tree → List Part
  | operand part _ => [part]
  | apply symbol left right => .operator symbol :: (left.parts ++ right.parts)

theorem parts_ne_nil (t : Tree) : t.parts ≠ [] := by
  cases t with
  | operand part plain => exact List.cons_ne_nil _ _
  | apply symbol left right => exact List.cons_ne_nil _ _

/-! ## One tree at the beginning of a sequence -/

/-- **Prefix forms need no brackets**: where a tree ends is told by the tree itself, whatever
comes after it. -/
theorem parts_append_cancel : ∀ {t u : Tree} {as bs : List Part},
    t.parts ++ as = u.parts ++ bs → t = u ∧ as = bs := by
  intro t
  induction t with
  | operand part plain =>
    intro u as bs h
    cases u with
    | operand part' plain' =>
      simp only [parts, List.singleton_append, List.cons.injEq] at h
      obtain ⟨rfl, rfl⟩ := h
      exact ⟨rfl, rfl⟩
    | apply symbol left right =>
      simp only [parts, List.cons_append, List.cons.injEq] at h
      rw [h.1] at plain
      exact absurd plain (by simp [Part.isOperator])
  | apply symbol left right ihl ihr =>
    intro u as bs h
    cases u with
    | operand part plain =>
      simp only [parts, List.cons_append, List.cons.injEq] at h
      rw [← h.1] at plain
      exact absurd plain (by simp [Part.isOperator])
    | apply symbol' left' right' =>
      simp only [parts, List.cons_append, List.append_assoc, List.cons.injEq,
        Part.operator.injEq] at h
      obtain ⟨rfl, hleft⟩ := h
      obtain ⟨rfl, hright⟩ := ihl hleft
      obtain ⟨rfl, hrest⟩ := ihr hright
      exact ⟨rfl, hrest⟩

/-! ## Rows of trees -/

/-- A row with one more part in front of it: an operand is a tree, an operator takes the first two
trees as its operands. -/
def push? (part : Part) (row : List Tree) : Option (List Tree) :=
  if plain : part.isOperator = false then some (operand part plain :: row)
  else
    match part, row with
    | .operator symbol, left :: right :: row => some (apply symbol left right :: row)
    | _, _ => none

/-- The trees whose prefix forms, one after another, are a sequence. -/
def row? : List Part → Option (List Tree)
  | [] => some []
  | part :: parts => (row? parts).bind (push? part)

theorem push?_operand {part : Part} (plain : part.isOperator = false) (row : List Tree) :
    push? part row = some (operand part plain :: row) := by
  rw [push?, dif_pos plain]

theorem push?_operator (symbol : String) (left right : Tree) (row : List Tree) :
    push? (.operator symbol) (left :: right :: row) = some (apply symbol left right :: row) := rfl

theorem push?_cases {part : Part} {row row' : List Tree} (h : push? part row = some row') :
    (∃ plain, row' = operand part plain :: row) ∨
    (∃ symbol left right rest, part = .operator symbol ∧ row = left :: right :: rest ∧
      row' = apply symbol left right :: rest) := by
  unfold push? at h
  split at h
  · next plain => exact .inl ⟨plain, (Option.some.inj h).symm⟩
  · split at h
    · next _ _ symbol left right rest _ =>
      exact .inr ⟨symbol, left, right, rest, rfl, rfl, (Option.some.inj h).symm⟩
    · exact absurd h (by simp)

theorem row?_parts_append (t : Tree) : ∀ (ps : List Part),
    row? (t.parts ++ ps) = (row? ps).map (t :: ·) := by
  induction t with
  | operand part plain =>
    intro ps
    simp only [parts, List.singleton_append, row?]
    cases row? ps with
    | none => rfl
    | some row => exact push?_operand plain row
  | apply symbol left right ihl ihr =>
    intro ps
    simp only [parts, List.cons_append, List.append_assoc, row?, ihl, ihr]
    cases row? ps with
    | none => rfl
    | some row => exact push?_operator symbol left right row

@[simp] theorem row?_parts (t : Tree) : row? t.parts = some [t] := by
  simpa [row?] using row?_parts_append t []

theorem row?_flatMap_parts (row : List Tree) : row? (row.flatMap parts) = some row := by
  induction row with
  | nil => rfl
  | cons t row ih =>
    rw [List.flatMap_cons, row?_parts_append, ih]
    rfl

theorem eq_flatMap_of_row? : ∀ {ps : List Part} {row : List Tree},
    row? ps = some row → ps = row.flatMap parts := by
  intro ps
  induction ps with
  | nil =>
    intro row h
    obtain rfl : [] = row := Option.some.inj h
    rfl
  | cons part ps ih =>
    intro row h
    obtain ⟨below, hrow, hpush⟩ := Option.bind_eq_some_iff.mp h
    have hps := ih hrow
    rcases push?_cases hpush with ⟨plain, rfl⟩ | ⟨symbol, left, right, rest, rfl, rfl, rfl⟩
    · rw [hps]
      rfl
    · rw [hps]
      simp [parts]

/-- **The row of a sequence is the only one**: reading it finds the trees exactly if the sequence
is made of their prefix forms. -/
theorem row?_eq_some_iff {ps : List Part} {row : List Tree} :
    row? ps = some row ↔ ps = row.flatMap parts := by
  constructor
  · exact eq_flatMap_of_row?
  · rintro rfl
    exact row?_flatMap_parts row

theorem row?_of_append {before after : List Part} : ∀ {row : List Tree},
    row? (before ++ after) = some row → ∃ row', row? after = some row' := by
  induction before with
  | nil =>
    intro row h
    exact ⟨row, h⟩
  | cons part before ih =>
    intro row h
    obtain ⟨below, hbelow, _⟩ := Option.bind_eq_some_iff.mp h
    exact ih hbelow

theorem row?_append {before after : List Part} {row row' : List Tree}
    (h : row? before = some row) (h' : row? after = some row') :
    row? (before ++ after) = some (row ++ row') := by
  rw [row?_eq_some_iff] at h h' ⊢
  rw [h, h', List.flatMap_append]

end Tree

end RuleLang
