import RuleLang.Operator.Table
import RuleLang.Proofs.Tree

/-!
# Infix expressions and the tree they stand for

The parts of a rule that is written as it should be: atoms with an operator between each two, where
an atom is an operand or an infix expression in parentheses. The tree of such an expression is the
conventional one. In every group the root is the loosest operator, the one with the greatest
priority number, and of several loosest ones the rightmost; what stands left and right of it are
its two subtrees. Parentheses only group.

Main statement: **splitting at the root can be done from the right, one operator at a time**
(`applyAll_heldLinks`). `heldLinks` goes through a group from its last operator to its first and
holds back the operators whose left operand is not known yet; an operator makes those held ones
its own that bind tighter. Splitting at the root needs the whole group at once, holding back does
not, and it is what the conversion does.
-/

set_option autoImplicit false

namespace RuleLang

mutual

/-- What stands between operators: an operand, or a group in parentheses. -/
inductive Atom where
  | operand (part : Part) (plain : part.isOperator = false) (noParen : part.paren? = none)
  | group (opening closing : Part) (opens : opening.paren? = some .opening)
      (closes : closing.paren? = some .closing) (inner : Infix)

/-- Atoms with an operator between each two. -/
inductive Infix where
  | last (atom : Atom)
  | link (atom : Atom) (symbol : String) (noParen : Part.parenOf? symbol = none) (rest : Infix)

end

mutual

def Atom.parts : Atom → List Part
  | .operand part _ _ => [part]
  | .group opening closing _ _ inner => opening :: (inner.parts ++ [closing])

def Infix.parts : Infix → List Part
  | .last atom => atom.parts
  | .link atom symbol _ rest => atom.parts ++ .operator symbol :: rest.parts

end

mutual

def Atom.depth : Atom → Nat
  | .operand _ _ _ => 0
  | .group _ _ _ _ inner => inner.depth + 1

/-- How deep the groups of an infix expression nest. -/
def Infix.depth : Infix → Nat
  | .last atom => atom.depth
  | .link atom _ _ rest => max atom.depth rest.depth

end

/-! ## The root of a group -/

/-- An operator of a group, with the tree of the atom right of it. -/
structure Link where
  symbol : String
  right : Tree
deriving DecidableEq, Repr

variable (table : OperatorTable)

def Link.priority (link : Link) : Int := table.priority link.symbol

/-- The rightmost of the loosest operators of a group, with what stands before and after it. -/
def loosest? : List Link → Option (List Link × Link × List Link)
  | [] => none
  | link :: links =>
    match loosest? links with
    | none => some ([], link, [])
    | some (before, root, after) =>
      if root.priority table < link.priority table then some ([], link, links)
      else some (link :: before, root, after)

theorem loosest?_eq_none {links : List Link} (h : loosest? table links = none) : links = [] := by
  cases links with
  | nil => rfl
  | cons link links =>
    rw [loosest?] at h
    split at h
    · exact absurd h (by simp)
    · split at h <;> exact absurd h (by simp)

/-- What is left of the root binds at least as tight, and what is right of it tighter. -/
theorem loosest?_spec {links : List Link} : ∀ {before after : List Link} {root : Link},
    loosest? table links = some (before, root, after) →
      links = before ++ root :: after ∧
      (∀ l ∈ before, l.priority table ≤ root.priority table) ∧
      (∀ l ∈ after, l.priority table < root.priority table) := by
  induction links with
  | nil =>
    intro before after root h
    exact absurd h (by simp [loosest?])
  | cons link links ih =>
    intro before after root h
    rw [loosest?] at h
    split at h
    · next hnone =>
      simp only [Option.some.injEq, Prod.mk.injEq] at h
      obtain ⟨rfl, rfl, rfl⟩ := h
      simp [loosest?_eq_none table hnone]
    · next before' root' after' hsome =>
      obtain ⟨hlinks, hbefore, hafter⟩ := ih hsome
      split at h
      · next hlt =>
        simp only [Option.some.injEq, Prod.mk.injEq] at h
        obtain ⟨rfl, rfl, rfl⟩ := h
        refine ⟨rfl, by simp, fun l hl => ?_⟩
        -- The new root is looser than the one it takes the place of, and so than all the others.
        rw [hlinks] at hl
        rcases List.mem_append.mp hl with hl | hl
        · exact Int.lt_of_le_of_lt (hbefore l hl) hlt
        · rcases List.mem_cons.mp hl with rfl | hl
          · exact hlt
          · exact Int.lt_trans (hafter l hl) hlt
      · next hle =>
        simp only [Option.some.injEq, Prod.mk.injEq] at h
        obtain ⟨rfl, rfl, rfl⟩ := h
        refine ⟨by rw [hlinks]; rfl, fun l hl => ?_, hafter⟩
        rcases List.mem_cons.mp hl with rfl | hl
        · exact Int.not_lt.mp hle
        · exact hbefore l hl

/-- The tree of a group that begins with `first`: its root is the rightmost of the loosest
operators, and what stands left and right of the root are the subtrees. -/
def groupTree (first : Tree) (links : List Link) : Tree :=
  match _split : loosest? table links with
  | none => first
  | some (before, root, after) =>
    .apply root.symbol (groupTree first before) (groupTree root.right after)
termination_by links.length
decreasing_by
  all_goals
    have hlength := congrArg List.length (loosest?_spec table _split).1
    simp only [List.length_append, List.length_cons] at hlength
    omega

mutual

/-- The tree of an atom: parentheses only group. -/
def Atom.tree : Atom → Tree
  | .operand part plain _ => .operand part plain
  | .group _ _ _ _ inner => groupTree table inner.first inner.links

def Infix.first : Infix → Tree
  | .last atom => atom.tree
  | .link atom _ _ _ => atom.tree

def Infix.links : Infix → List Link
  | .last _ => []
  | .link _ symbol _ rest => ⟨symbol, rest.first⟩ :: rest.links

end

/-- The conventional tree of an infix expression. -/
def Infix.tree (e : Infix) : Tree := groupTree table (e.first table) (e.links table)

/-! ## Holding operators back -/

/-- Makes operators the owners of what stands around them, the leftmost one first. -/
def applyAll (t : Tree) (links : List Link) : Tree :=
  links.foldl (fun t link => .apply link.symbol t link.right) t

/-- Lets the operators at the front have their operands as long as they bind tighter than a
priority. -/
def absorb (priority : Int) (t : Tree) : List Link → Tree × List Link
  | [] => (t, [])
  | link :: links =>
    if link.priority table < priority then absorb priority (.apply link.symbol t link.right) links
    else (t, link :: links)

/-- The operators of a group that are still held back when the whole group was read from right to
left, each with the tree of all that is right of it up to the next one. -/
def heldLinks : List Link → List Link
  | [] => []
  | link :: links =>
    ⟨link.symbol, (absorb table (link.priority table) link.right (heldLinks links)).1⟩ ::
      (absorb table (link.priority table) link.right (heldLinks links)).2

variable {table}

theorem absorb_of_lt {priority : Int} {link : Link} (h : link.priority table < priority)
    (t : Tree) (links : List Link) :
    absorb table priority t (link :: links) =
      absorb table priority (.apply link.symbol t link.right) links := by
  rw [absorb, if_pos h]

theorem absorb_of_le {priority : Int} {link : Link} (h : priority ≤ link.priority table)
    (t : Tree) (links : List Link) :
    absorb table priority t (link :: links) = (t, link :: links) := by
  rw [absorb, if_neg (Int.not_lt.mpr h)]

theorem absorb_all {priority : Int} {links : List Link} : ∀ (t : Tree),
    (∀ l ∈ links, l.priority table < priority) →
      absorb table priority t links = (applyAll t links, []) := by
  induction links with
  | nil => exact fun _ _ => rfl
  | cons link links ih =>
    intro t h
    rw [absorb_of_lt (h link List.mem_cons_self),
      ih _ fun l hl => h l (List.mem_cons_of_mem _ hl)]
    rfl

theorem absorb_append {priority : Int} {root : Link} (h : priority ≤ root.priority table)
    (links : List Link) : ∀ (t : Tree),
      absorb table priority t (links ++ [root]) =
        ((absorb table priority t links).1, (absorb table priority t links).2 ++ [root]) := by
  induction links with
  | nil =>
    intro t
    exact absorb_of_le h t []
  | cons link links ih =>
    intro t
    rw [List.cons_append]
    by_cases hlt : link.priority table < priority
    · rw [absorb_of_lt hlt, absorb_of_lt hlt, ih]
    · rw [absorb_of_le (Int.not_lt.mp hlt), absorb_of_le (Int.not_lt.mp hlt)]
      rfl

theorem mem_absorb {priority : Int} {links : List Link} : ∀ {t : Tree} {l : Link},
    l ∈ (absorb table priority t links).2 → l ∈ links := by
  induction links with
  | nil => exact fun h => h
  | cons link links ih =>
    intro t l h
    rw [absorb] at h
    split at h
    · exact List.mem_cons_of_mem _ (ih h)
    · exact h

theorem priority_of_mem_heldLinks {links : List Link} : ∀ {l : Link}, l ∈ heldLinks table links →
    ∃ l' ∈ links, l.priority table = l'.priority table := by
  induction links with
  | nil =>
    intro l h
    exact absurd h (by simp [heldLinks])
  | cons link links ih =>
    intro l h
    rw [heldLinks] at h
    rcases List.mem_cons.mp h with rfl | h
    · exact ⟨link, List.mem_cons_self, rfl⟩
    · obtain ⟨l', hl', heq⟩ := ih (mem_absorb h)
      exact ⟨l', List.mem_cons_of_mem _ hl', heq⟩

theorem heldLinks_cons (link : Link) (links : List Link) :
    heldLinks table (link :: links) =
      ⟨link.symbol, (absorb table (link.priority table) link.right (heldLinks table links)).1⟩ ::
        (absorb table (link.priority table) link.right (heldLinks table links)).2 := rfl

theorem applyAll_append (t : Tree) (links links' : List Link) :
    applyAll t (links ++ links') = applyAll (applyAll t links) links' := List.foldl_append

theorem heldLinks_append {root : Link} {before after : List Link}
    (hafter : ∀ l ∈ after, l.priority table < root.priority table) :
    (∀ l ∈ before, l.priority table ≤ root.priority table) →
      heldLinks table (before ++ root :: after) =
        heldLinks table before ++ [⟨root.symbol, applyAll root.right (heldLinks table after)⟩] := by
  induction before with
  | nil =>
    intro _
    have hheld : ∀ l ∈ heldLinks table after, l.priority table < root.priority table := by
      intro l hl
      obtain ⟨l', hl', heq⟩ := priority_of_mem_heldLinks hl
      exact heq ▸ hafter l' hl'
    rw [List.nil_append, heldLinks_cons, absorb_all _ hheld]
    rfl
  | cons link before ih =>
    intro hbefore
    let taken : Link := ⟨root.symbol, applyAll root.right (heldLinks table after)⟩
    have hlink : link.priority table ≤ taken.priority table := hbefore link List.mem_cons_self
    rw [List.cons_append, heldLinks_cons, ih fun l hl => hbefore l (List.mem_cons_of_mem _ hl),
      absorb_append hlink]
    rfl

/-- **Holding back and splitting at the root build the same tree.** -/
theorem applyAll_heldLinks (first : Tree) (links : List Link) :
    applyAll first (heldLinks table links) = groupTree table first links := by
  -- The recursion is that of the split: both sides of the root are shorter groups.
  rw [groupTree]
  split
  · next hnone =>
    rw [loosest?_eq_none table hnone]
    rfl
  · next before root after hsplit =>
    obtain ⟨hlinks, hbefore, hafter⟩ := loosest?_spec table hsplit
    have : before.length + after.length + 1 = links.length := by
      rw [hlinks, List.length_append, List.length_cons]
      omega
    rw [hlinks, heldLinks_append hafter hbefore, applyAll_heldLinks root.right after,
      applyAll_append, applyAll_heldLinks first before]
    rfl
termination_by links.length

end RuleLang
