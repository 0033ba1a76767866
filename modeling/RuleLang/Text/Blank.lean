import RuleLang.Text.CharSet

/-!
# Blanks

The characters that may stand around a bare literal or a number without being part of it: those
of the property White_Space, and no others (the zero-width space is not one). Trimming takes them
off both ends and touches nothing between.
-/

set_option autoImplicit false

namespace RuleLang.Text

/-- The characters of the property White_Space. -/
def blanks : CharSet :=
  [(0x9, 0xD), (0x20, 0x20), (0x85, 0x85), (0xA0, 0xA0), (0x1680, 0x1680), (0x2000, 0x200A),
   (0x2028, 0x2029), (0x202F, 0x202F), (0x205F, 0x205F), (0x3000, 0x3000)]

def isBlank (c : Char) : Bool := blanks.has c

def dropBlankEnd (cs : List Char) : List Char := (cs.reverse.dropWhile isBlank).reverse

def trimmed (cs : List Char) : List Char := dropBlankEnd (cs.dropWhile isBlank)

def trim (s : String) : String := String.ofList (trimmed s.toList)

/-! Trimming takes off blanks, and all there are at the ends. -/

theorem dropWhile_eq_cons {p : Char → Bool} {cs rest : List Char} {c : Char}
    (h : cs.dropWhile p = c :: rest) : p c = false := by
  have hne : cs.dropWhile p ≠ [] := by simp [h]
  have hhead := List.head_dropWhile_not p hne
  simpa only [h, List.head_cons] using hhead

theorem isBlank_of_mem_takeWhile {c : Char} {cs : List Char} (h : c ∈ cs.takeWhile isBlank) :
    isBlank c = true :=
  List.all_eq_true.mp (List.all_takeWhile ..) c h

theorem exists_append_dropBlankEnd (cs : List Char) :
    ∃ blanks, (∀ c ∈ blanks, isBlank c = true) ∧ cs = dropBlankEnd cs ++ blanks := by
  refine ⟨(cs.reverse.takeWhile isBlank).reverse, fun c hc => ?_, ?_⟩
  · exact isBlank_of_mem_takeWhile (List.mem_reverse.mp hc)
  · rw [dropBlankEnd, ← List.reverse_append, List.takeWhile_append_dropWhile, List.reverse_reverse]

theorem exists_append_trimmed (cs : List Char) :
    ∃ before after, (∀ c ∈ before, isBlank c = true) ∧ (∀ c ∈ after, isBlank c = true) ∧
      cs = before ++ trimmed cs ++ after := by
  obtain ⟨after, hafter, heq⟩ := exists_append_dropBlankEnd (cs.dropWhile isBlank)
  refine ⟨cs.takeWhile isBlank, after, fun _ => isBlank_of_mem_takeWhile, hafter, ?_⟩
  rw [trimmed, List.append_assoc, ← heq, List.takeWhile_append_dropWhile]

theorem isBlank_getLast?_trimmed {cs : List Char} {c : Char}
    (h : (trimmed cs).getLast? = some c) : isBlank c = false := by
  rw [trimmed, dropBlankEnd, List.getLast?_reverse] at h
  obtain ⟨rest, hrest⟩ := List.head?_eq_some_iff.mp h
  exact dropWhile_eq_cons hrest

theorem isBlank_head?_trimmed {cs : List Char} {c : Char}
    (h : (trimmed cs).head? = some c) : isBlank c = false := by
  -- What the end is trimmed of is not empty here, so it begins as it did before.
  obtain ⟨after, _, heq⟩ := exists_append_dropBlankEnd (cs.dropWhile isBlank)
  obtain ⟨rest, hrest⟩ := List.head?_eq_some_iff.mp h
  rw [← trimmed, hrest] at heq
  exact dropWhile_eq_cons heq

/-- A text without blanks is not changed by trimming. -/
theorem trimmed_eq_self {cs : List Char} (h : ∀ c ∈ cs, isBlank c = false) : trimmed cs = cs := by
  have hfront {cs : List Char} (h : ∀ c ∈ cs, isBlank c = false) : cs.dropWhile isBlank = cs := by
    cases cs with
    | nil => rfl
    | cons c cs => exact List.dropWhile_cons_of_neg (by simp [h c (List.mem_cons_self ..)])
  have hend : cs.reverse.dropWhile isBlank = cs.reverse :=
    hfront fun c hc => h c (List.mem_reverse.mp hc)
  rw [trimmed, hfront h, dropBlankEnd, hend, List.reverse_reverse]

theorem dropWhile_eq_nil {cs : List Char} (h : ∀ c ∈ cs, isBlank c = true) :
    cs.dropWhile isBlank = [] := by
  rw [← List.append_nil cs, List.dropWhile_append_of_pos h]
  rfl

/-- Nothing is left of a text of blanks, and of no other. -/
theorem trimmed_eq_nil_iff {cs : List Char} : trimmed cs = [] ↔ ∀ c ∈ cs, isBlank c = true := by
  constructor
  · intro h
    obtain ⟨before, after, hbefore, hafter, heq⟩ := exists_append_trimmed cs
    rw [h, List.append_nil] at heq
    exact heq ▸ List.forall_mem_append.mpr ⟨hbefore, hafter⟩
  · intro h
    rw [trimmed, dropWhile_eq_nil h]
    rfl

theorem trim_eq_empty_iff {s : String} : trim s = "" ↔ trimmed s.toList = [] := by
  rw [trim, ← String.toList_inj, String.toList_ofList]
  rfl

/-- More blanks at the ends make no difference. -/
theorem trimmed_append_blanks {before after : List Char} (hbefore : ∀ c ∈ before, isBlank c = true)
    (hafter : ∀ c ∈ after, isBlank c = true) (cs : List Char) :
    trimmed (before ++ cs ++ after) = trimmed cs := by
  have hend : ∀ c ∈ after.reverse, isBlank c = true := fun c hc => hafter c (List.mem_reverse.mp hc)
  rw [List.append_assoc, trimmed, List.dropWhile_append_of_pos hbefore, List.dropWhile_append,
    trimmed]
  split
  · next hempty => rw [List.isEmpty_iff.mp hempty, dropWhile_eq_nil hafter]
  · rw [dropBlankEnd, List.reverse_append, List.dropWhile_append_of_pos hend, dropBlankEnd]

/-- The characters that are written with ink in ASCII are no blanks. -/
theorem isBlank_of_toNat {c : Char} (hlow : 0x20 < c.toNat) (hhigh : c.toNat < 0x85) :
    isBlank c = false := by
  rw [Bool.eq_false_iff]
  intro h
  obtain ⟨range, hrange, hle, hge⟩ := CharSet.has_iff.mp h
  simp only [blanks, List.mem_cons, List.not_mem_nil, or_false] at hrange
  rcases hrange with rfl | rfl | rfl | rfl | rfl | rfl | rfl | rfl | rfl | rfl <;> omega

end RuleLang.Text
