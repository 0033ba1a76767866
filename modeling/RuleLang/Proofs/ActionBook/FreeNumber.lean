import RuleLang.ActionBook

/-!
# The number of a new rule

An action that is added gets the least number, from a given one on, that no rule of the book has.
It is found by going once through the names of the book. One may as well look at one number after
the other until one is free: that search ends, and **both find the same number, the least free
one** (`search_iff`, `leastFreeId_spec`).
-/

set_option autoImplicit false

namespace RuleLang.ActionBook

/-- Whether a number is the least one, from a start on, that is not taken. -/
structure LeastFree (Taken : Int → Prop) (start id : Int) : Prop where
  start_le : start ≤ id
  free : ¬ Taken id
  taken : ∀ {other : Int}, start ≤ other → other < id → Taken other

theorem LeastFree.unique {Taken : Int → Prop} {start id id' : Int}
    (h : LeastFree Taken start id) (h' : LeastFree Taken start id') : id = id' := by
  rcases Int.lt_trichotomy id id' with hlt | heq | hlt
  · exact absurd (h'.taken h.start_le hlt) h.free
  · exact heq
  · exact absurd (h.taken h'.start_le hlt) h'.free

/-- Whether a book has a rule under a number. -/
def Taken (book : RuleBook) (id : Int) : Prop := book.contains (.id id) = true

/-! ## Going through the names -/

/-- The number that going through some names ends with. -/
def passNames (start : Int) (names : List RuleName) : Int :=
  names.foldl (fun id name => if name = .id id then id + 1 else id) start

/-- Names in order are passed in order, so a number that is left behind stays behind. -/
theorem passNames_spec {names : List RuleName} : ∀ {start : Int},
    names.Pairwise (fun a b => compare a b = .lt) →
      LeastFree (fun id => RuleName.id id ∈ names) start (passNames start names) := by
  induction names with
  | nil =>
    intro start _
    exact ⟨Int.le_refl _, by simp, fun hle hlt => absurd hle (Int.not_le.mpr hlt)⟩
  | cons name names ih =>
    intro start hordered
    obtain ⟨hfirst, hrest⟩ := List.pairwise_cons.mp hordered
    rw [passNames, List.foldl_cons, ← passNames]
    by_cases hname : name = .id start
    · rw [if_pos hname]
      have hnext := @ih (start + 1) hrest
      have hle := hnext.start_le
      refine ⟨by omega, ?_, fun {other} hstart hlt => ?_⟩
      · rw [List.mem_cons, hname, RuleName.id.injEq, not_or]
        exact ⟨by omega, hnext.free⟩
      · by_cases hother : other = start
        · rw [hother, hname]
          exact List.mem_cons_self
        · exact List.mem_cons_of_mem _ (hnext.taken (by omega) hlt)
    · rw [if_neg hname]
      have hsame := @ih start hrest
      refine ⟨hsame.start_le, ?_, fun hstart hlt =>
        List.mem_cons_of_mem _ (hsame.taken hstart hlt)⟩
      intro hmem
      rcases List.mem_cons.mp hmem with heq | hmem
      · -- If the number found were the first name, the start would be among the later names.
        have hne : start ≠ passNames start names := by
          intro hstart
          rw [← hstart] at heq
          exact hname heq.symm
        have hle := hsame.start_le
        have hlt := hfirst _ (hsame.taken (Int.le_refl start) (by omega))
        rw [← heq] at hlt
        have hbelow : passNames start names < start := Int.compare_eq_lt.mp hlt
        omega
      · exact hsame.free hmem

theorem leastFreeId_spec (book : RuleBook) (start : Int) :
    LeastFree (Taken book) start (leastFreeId book start) := by
  have h := @passNames_spec book.names start book.rules.pairwise_keys
  refine ⟨h.start_le, ?_, fun hstart hlt => SortedMap.mem_keys_iff.mp (h.taken hstart hlt)⟩
  exact fun htaken => h.free (SortedMap.mem_keys_iff.mpr htaken)

/-! ## Looking at one number after the other -/

/-- A search that looks at a number and goes on to the next one while it is taken. -/
inductive Search (book : RuleBook) : Int → Int → Prop where
  | found {id : Int} : ¬ Taken book id → Search book id id
  | next {id free : Int} : Taken book id → Search book (id + 1) free → Search book id free

variable {book : RuleBook} {start id : Int}

theorem leastFree_of_search (h : Search book start id) : LeastFree (Taken book) start id := by
  induction h with
  | found hfree => exact ⟨Int.le_refl _, hfree, fun hle hlt => absurd hle (Int.not_le.mpr hlt)⟩
  | @next id free htaken _ ih =>
    have hle := ih.start_le
    refine ⟨by omega, ih.free, fun {other} hstart hlt => ?_⟩
    by_cases hother : other = id
    · rw [hother]
      exact htaken
    · exact ih.taken (by omega) hlt

/-- The search takes as many steps as there are numbers below the free one. -/
theorem search_of_leastFree (steps : Nat) : ∀ {start : Int}, start + steps = id →
    LeastFree (Taken book) start id → Search book start id := by
  induction steps with
  | zero =>
    intro start hid h
    obtain rfl : start = id := by simpa using hid
    exact .found h.free
  | succ steps ih =>
    intro start hid h
    have hlt : start < id := by omega
    refine .next (h.taken (Int.le_refl _) hlt) (ih (by omega) ⟨hlt, h.free, ?_⟩)
    exact fun hle => h.taken (by omega)

/-- **The search ends, and it ends with the least free number.** -/
theorem search_iff : Search book start id ↔ id = leastFreeId book start := by
  have hleast := leastFreeId_spec book start
  constructor
  · exact fun h => (leastFree_of_search h).unique hleast
  · rintro rfl
    have hle := hleast.start_le
    exact search_of_leastFree (leastFreeId book start - start).toNat (by omega) hleast

end RuleLang.ActionBook
