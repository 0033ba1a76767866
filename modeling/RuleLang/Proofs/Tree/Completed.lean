import RuleLang.Proofs.Tree

/-!
# The applications of a sequence

A sequence that is read from its first part to its last completes applications on the way, whether
or not it is itself a prefix form. An application is complete with the part that ends its prefix
form; of several that end with one part the innermost is complete first. `completed` lists the
applications of any sequence in this order, by looking at the ends of what was read.

Two kinds of sequences matter to evaluation, and for both the list has a short form: the prefix
form of a tree completes the applications of the tree in postorder (`completed_parts`), and a
sequence of operators that still wait for an operand completes those of the left operands that are
there (`completed_pending`). Every sequence begins with a tree or is of the second kind
(`starts_or_pending`).
-/

set_option autoImplicit false

namespace RuleLang.Tree

/-- The application that a sequence is the whole prefix form of. -/
def application? (ps : List Part) : Option Tree :=
  match row? ps with
  | some [apply symbol left right] => some (apply symbol left right)
  | _ => none

/-- The applications whose prefix forms a sequence ends with, the shorter ones first. -/
def ending : List Part → List Tree
  | [] => []
  | p :: ps => ending ps ++ (application? (p :: ps)).toList

/-- The applications that reading on completes, after some parts were read. -/
def completedAfter (before : List Part) : List Part → List Tree
  | [] => []
  | p :: ps => ending (before ++ [p]) ++ completedAfter (before ++ [p]) ps

/-- The applications of a sequence whose operands are complete, in the order in which they
complete. -/
def completed (ps : List Part) : List Tree := completedAfter [] ps

def applications : Tree → List Tree
  | operand _ _ => []
  | apply symbol left right =>
    left.applications ++ right.applications ++ [apply symbol left right]

/-! ## Where a part ends no application -/

theorem application?_of_row? {ps : List Part} (h : row? ps = none) : application? ps = none := by
  rw [application?, h]

theorem row?_append_eq_none {before after : List Part} (h : row? after = none) :
    row? (before ++ after) = none := by
  cases hrow : row? (before ++ after) with
  | none => rfl
  | some row =>
    obtain ⟨_, hend⟩ := row?_of_append hrow
    rw [h] at hend
    exact absurd hend (by simp)

/-- The applications that begin in `before` and end with `after`. -/
def spanning : List Part → List Part → List Tree
  | [], _ => []
  | p :: before, after => spanning before after ++ (application? (p :: (before ++ after))).toList

theorem ending_append (before after : List Part) :
    ending (before ++ after) = ending after ++ spanning before after := by
  induction before with
  | nil => simp [spanning]
  | cons p before ih => rw [List.cons_append, ending, ih, spanning, List.append_assoc]

theorem spanning_append (a b after : List Part) :
    spanning (a ++ b) after = spanning b after ++ spanning a (b ++ after) := by
  induction a with
  | nil => simp [spanning]
  | cons p a ih =>
    rw [List.cons_append, spanning, spanning, ih, List.append_assoc, List.append_assoc]

theorem spanning_eq_nil {before after : List Part} :
    (∀ p c, p :: c <:+ before → application? (p :: (c ++ after)) = none) →
      spanning before after = [] := by
  induction before with
  | nil => exact fun _ => rfl
  | cons p before ih =>
    intro h
    have hrest : spanning before after = [] := by
      refine ih fun q c hc => ?_
      exact h q c (hc.trans (List.suffix_cons p before))
    rw [spanning, h p before (List.suffix_refl _), hrest]
    rfl

theorem spanning_of_row? {before after : List Part} (h : row? after = none) :
    spanning before after = [] := by
  refine spanning_eq_nil fun p c _ => ?_
  exact application?_of_row? (@row?_append_eq_none (p :: c) after h)

theorem row?_operator (symbol : String) : row? [.operator symbol] = none := rfl

theorem ending_operator (before : List Part) (symbol : String) :
    ending (before ++ [.operator symbol]) = [] := by
  rw [ending_append, spanning_of_row? (row?_operator symbol)]
  rfl

theorem row?_operator_parts (symbol : String) (t : Tree) :
    row? (.operator symbol :: t.parts) = none := by
  rw [row?, row?_parts]
  rfl

/-- A tree that is not read to its end is no row. -/
theorem row?_of_parts_eq {t : Tree} {read rest : List Part} (h : t.parts = read ++ rest)
    (hread : read ≠ []) (hrest : rest ≠ []) : row? read = none := by
  cases hrow : row? read with
  | none => rfl
  | some row =>
    have heq := eq_flatMap_of_row? hrow
    cases row with
    | nil => exact absurd heq hread
    | cons u row =>
      -- The first tree of the row would be the whole tree, with nothing left to read.
      have hcancel : t.parts ++ [] = u.parts ++ (row.flatMap parts ++ rest) := by
        rw [List.append_nil, h, heq, List.flatMap_cons, List.append_assoc]
      exact absurd (List.append_eq_nil_iff.mp (parts_append_cancel hcancel).2.symm).2 hrest

/-! ## Reading a tree -/

theorem completedAfter_append (a b : List Part) : ∀ (before : List Part),
    completedAfter before (a ++ b) = completedAfter before a ++ completedAfter (before ++ a) b := by
  induction a with
  | nil =>
    intro before
    simp [completedAfter]
  | cons p a ih =>
    intro before
    rw [List.cons_append, completedAfter, completedAfter, ih, List.append_assoc before,
      List.singleton_append, List.append_assoc]

/-- Reading a tree completes its own applications, and with its last part those that it is the
right operand of. -/
theorem completedAfter_of_parts_eq {t : Tree} (before : List Part) {rest : List Part} :
    ∀ {read : List Part}, t.parts = read ++ rest → rest ≠ [] →
      completedAfter (before ++ read) rest =
        completedAfter read rest ++ spanning before t.parts := by
  -- The induction is on what is still to be read of the tree. While something is, an application
  -- that begins before the tree cannot end.
  induction rest with
  | nil =>
    intro read _ hne
    exact absurd rfl hne
  | cons p rest ih =>
    intro read h _
    cases rest with
    | nil =>
      simp only [completedAfter, List.append_nil]
      rw [List.append_assoc, ending_append before, h]
    | cons q rest =>
      have h' : t.parts = (read ++ [p]) ++ (q :: rest) := by
        rw [h, List.append_assoc]
        rfl
      have hnone := row?_of_parts_eq h' (by simp) (by simp)
      rw [completedAfter, List.append_assoc before, ending_append before,
        spanning_of_row? hnone, List.append_nil, ih h' (by simp)]
      exact (List.append_assoc _ _ _).symm

theorem completedAfter_parts (before : List Part) (t : Tree) :
    completedAfter before t.parts = completed t.parts ++ spanning before t.parts := by
  have h : t.parts = [] ++ t.parts := rfl
  have hread := completedAfter_of_parts_eq before h t.parts_ne_nil
  rwa [List.append_nil] at hread

theorem spanning_parts (t u : Tree) : spanning t.parts u.parts = [] := by
  refine spanning_eq_nil fun p c hc => ?_
  obtain ⟨front, hfront⟩ := hc
  obtain ⟨row, hrow⟩ := @row?_of_append front (p :: c) _ (hfront ▸ row?_parts t)
  have happ : row? ((p :: c) ++ u.parts) = some (row ++ [u]) := row?_append hrow (row?_parts u)
  rw [application?, ← List.cons_append, happ]
  cases row with
  | nil => exact absurd (eq_flatMap_of_row? hrow) (by simp)
  | cons v row => cases v <;> cases row <;> rfl

theorem application?_parts (symbol : String) (left right : Tree) :
    application? (.operator symbol :: (left.parts ++ right.parts)) =
      some (apply symbol left right) := by
  rw [application?, show Part.operator symbol :: (left.parts ++ right.parts) =
    (apply symbol left right).parts from rfl, row?_parts]

/-- **Reading a tree completes its applications in postorder.** -/
theorem completed_parts (t : Tree) : completed t.parts = t.applications := by
  induction t with
  | operand part plain =>
    have hrow : row? [part] = some [operand part plain] := row?_parts (operand part plain)
    simp [parts, completed, completedAfter, ending, application?, hrow, applications]
  | apply symbol left right ihl ihr =>
    -- Of the applications that end with an operand, only the tree itself begins before it, and
    -- that one ends with the right operand.
    have hleft : spanning [.operator symbol] left.parts = [] := by
      simp [spanning, application?_of_row? (row?_operator_parts symbol left)]
    have hright : spanning (.operator symbol :: left.parts) right.parts =
        [apply symbol left right] := by
      rw [spanning, spanning_parts, application?_parts]
      rfl
    rw [completed, parts, completedAfter, ending_operator, completedAfter_append, List.nil_append,
      List.nil_append, completedAfter_parts, ihl, hleft, List.append_nil,
      List.singleton_append, completedAfter_parts, ihr, hright, applications,
      List.append_assoc]

/-! ## Operators that wait -/

/-- An operator that waits for an operand: for the right one if the left one is there. -/
structure Pending where
  symbol : String
  left : Option Tree

def Pending.parts (p : Pending) : List Part :=
  .operator p.symbol :: (p.left.map Tree.parts).getD []

/-- **Every sequence begins with a tree, or all its operators wait.** -/
theorem starts_or_pending (ps : List Part) :
    (∃ (t : Tree) (rest : List Part), ps = t.parts ++ rest) ∨
      ∃ pending : List Pending, ps = pending.flatMap Pending.parts := by
  match ps with
  | [] => exact .inr ⟨[], rfl⟩
  | .text content :: rest => exact .inl ⟨operand (.text content) rfl, rest, rfl⟩
  | .field name :: rest => exact .inl ⟨operand (.field name) rfl, rest, rfl⟩
  | .other literal :: rest => exact .inl ⟨operand (.other literal) rfl, rest, rfl⟩
  | .operator s :: ps =>
    rcases starts_or_pending ps with ⟨l, rest, rfl⟩ | ⟨pending, rfl⟩
    · have : rest.length < (l.parts ++ rest).length + 1 := by
        rw [List.length_append]
        omega
      rcases starts_or_pending rest with ⟨r, rest', rfl⟩ | ⟨pending, rfl⟩
      · exact .inl ⟨apply s l r, rest', by simp [parts]⟩
      · exact .inr ⟨⟨s, some l⟩ :: pending, rfl⟩
    · exact .inr ⟨⟨s, none⟩ :: pending, rfl⟩
termination_by ps.length

/-- A sequence is never of both kinds. -/
theorem parts_append_ne_pending (pending : List Pending) : ∀ (t : Tree) (rest : List Part),
    t.parts ++ rest ≠ pending.flatMap Pending.parts := by
  -- The operator of the tree would be the first that waits, and one of its operands would begin
  -- where the others do.
  induction pending with
  | nil =>
    intro t rest h
    exact t.parts_ne_nil (List.append_eq_nil_iff.mp h).1
  | cons p pending ih =>
    intro t rest h
    cases t with
    | operand part plain =>
      have hpart : part = .operator p.symbol := by
        simpa [parts, Pending.parts] using congrArg List.head? h
      rw [hpart] at plain
      exact absurd plain (by simp [Part.isOperator])
    | apply symbol left right =>
      obtain ⟨s, waiting⟩ := p
      simp only [parts, List.flatMap_cons, Pending.parts, List.cons_append, List.append_assoc,
        List.cons.injEq] at h
      cases waiting with
      | none => exact ih left (right.parts ++ rest) h.2
      | some l => exact ih right rest (parts_append_cancel h.2).2

/-- **While operators wait, only the left operands that are there complete applications.** -/
theorem completedAfter_pending (pending : List Pending) : ∀ (before : List Part),
    completedAfter before (pending.flatMap Pending.parts) =
      (pending.filterMap Pending.left).flatMap applications := by
  induction pending with
  | nil => exact fun _ => rfl
  | cons p pending ih =>
    intro before
    obtain ⟨symbol, waiting⟩ := p
    cases waiting with
    | none =>
      rw [List.flatMap_cons, Pending.parts, List.cons_append, completedAfter, ending_operator]
      exact ih _
    | some t =>
      have hnone := row?_operator_parts symbol t
      have hspan : spanning (before ++ [.operator symbol]) t.parts = [] := by
        rw [spanning_append, List.singleton_append, spanning_of_row? hnone, spanning,
          List.nil_append, application?_of_row? hnone]
        rfl
      rw [List.flatMap_cons, Pending.parts, List.cons_append, completedAfter, ending_operator,
        List.nil_append, completedAfter_append, Option.map_some, Option.getD_some,
        completedAfter_parts, completed_parts, hspan, List.append_nil, ih]
      rfl

theorem completed_pending (pending : List Pending) :
    completed (pending.flatMap Pending.parts) =
      (pending.filterMap Pending.left).flatMap applications :=
  completedAfter_pending pending []

end RuleLang.Tree
