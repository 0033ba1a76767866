/-!
# Maps kept in key order

`SortedMap κ α` is a finite map held as the list of its entries in strictly ascending key order.
The order is part of the type (`ascending`), so a map has exactly one representation: two maps
with the same look-ups are equal (`ext_get?`), and whatever is read off the entry list — the
symbols of an operator table, the names of the cached rules — comes out in key order without a
sort.

The look-up laws (`get?_insert`, `get?_erase`, `get?_map`) are what the rest of the library uses;
nothing outside this file unfolds the entry list of a map that an operation built.
-/

set_option autoImplicit false

namespace RuleLang

universe u v w

/-- Every entry comes before all that follow it, by key. -/
def Ascending {κ : Type u} {α : Type v} [Ord κ] (entries : List (κ × α)) : Prop :=
  entries.Pairwise fun a b => compare a.1 b.1 = .lt

/-- A finite map, held as its entries in strictly ascending key order. -/
structure SortedMap (κ : Type u) (α : Type v) [Ord κ] where
  entries : List (κ × α)
  ascending : Ascending entries

namespace SortedMap

variable {κ : Type u} {α : Type v} {β : Type w} [Ord κ]

/-! ## Entry lists -/

/-- Puts an entry at its place, replacing the entry of an equal key. -/
def insertEntry (k : κ) (a : α) : List (κ × α) → List (κ × α)
  | [] => [(k, a)]
  | (k', a') :: rest =>
    match compare k k' with
    | .lt => (k, a) :: (k', a') :: rest
    | .eq => (k, a) :: rest
    | .gt => (k', a') :: insertEntry k a rest

/-- The value under a key; the list is searched from its first entry on. -/
def findEntry (k : κ) : List (κ × α) → Option α
  | [] => none
  | (k', a) :: rest => if compare k k' = .eq then some a else findEntry k rest

theorem mem_insertEntry {k : κ} {a : α} {e : κ × α} :
    ∀ {l : List (κ × α)}, e ∈ insertEntry k a l → e = (k, a) ∨ e ∈ l
  | [], h => by simpa [insertEntry] using h
  | (k', a') :: rest, h => by
    rw [insertEntry] at h
    split at h
    · simpa using h
    · rcases List.mem_cons.mp h with rfl | h
      · exact Or.inl rfl
      · exact Or.inr (List.mem_cons_of_mem _ h)
    · rcases List.mem_cons.mp h with rfl | h
      · exact Or.inr List.mem_cons_self
      · exact (mem_insertEntry h).imp_right (List.mem_cons_of_mem _)

theorem compare_gt_swap [Std.TransOrd κ] {a b : κ} (h : compare a b = .gt) :
    compare b a = .lt := by
  rw [show compare b a = (compare a b).swap from Std.OrientedOrd.eq_swap, h]; rfl

theorem ascending_insertEntry [Std.TransOrd κ] [Std.LawfulEqOrd κ] (k : κ) (a : α) :
    ∀ {l : List (κ × α)}, Ascending l → Ascending (insertEntry k a l)
  | [], _ => by simp [insertEntry, Ascending]
  | (k', a') :: rest, h => by
    have hrest := List.pairwise_cons.mp h
    rw [insertEntry]
    split
    · next hlt =>
      refine List.pairwise_cons.mpr ⟨fun e he => ?_, h⟩
      rcases List.mem_cons.mp he with rfl | he
      · exact hlt
      · exact Std.TransCmp.lt_trans hlt (hrest.1 e he)
    · next heq =>
      refine List.pairwise_cons.mpr ⟨fun e he => ?_, hrest.2⟩
      rw [Std.LawfulEqCmp.eq_of_compare heq]
      exact hrest.1 e he
    · next hgt =>
      refine List.pairwise_cons.mpr ⟨fun e he => ?_, ascending_insertEntry k a hrest.2⟩
      rcases mem_insertEntry he with rfl | he
      · exact compare_gt_swap hgt
      · exact hrest.1 e he

theorem ascending_map (f : α → β) {l : List (κ × α)} (h : Ascending l) :
    Ascending (l.map fun e => (e.1, f e.2)) := by
  unfold Ascending at h ⊢
  rw [List.pairwise_map]
  exact h

/-! ## Operations -/

def empty : SortedMap κ α := ⟨[], List.Pairwise.nil⟩

instance : EmptyCollection (SortedMap κ α) := ⟨empty⟩

instance : Inhabited (SortedMap κ α) := ⟨empty⟩

/-- The value under a key, if there is one. -/
def get? (m : SortedMap κ α) (k : κ) : Option α := findEntry k m.entries

def contains (m : SortedMap κ α) (k : κ) : Bool := (m.get? k).isSome

def size (m : SortedMap κ α) : Nat := m.entries.length

def isEmpty (m : SortedMap κ α) : Bool := m.entries.isEmpty

def keys (m : SortedMap κ α) : List κ := m.entries.map Prod.fst

/-- The values in the order of their keys. -/
def values (m : SortedMap κ α) : List α := m.entries.map Prod.snd

/-- Removes a key; a key that is not there is no concern. -/
def erase (m : SortedMap κ α) (k : κ) : SortedMap κ α :=
  ⟨m.entries.filter fun e => compare k e.1 != .eq, m.ascending.filter _⟩

def map (f : α → β) (m : SortedMap κ α) : SortedMap κ β :=
  ⟨m.entries.map fun e => (e.1, f e.2), ascending_map f m.ascending⟩

section Lawful

variable [Std.TransOrd κ] [Std.LawfulEqOrd κ]

/-- Sets the value under a key, replacing the previous one. -/
def insert (m : SortedMap κ α) (k : κ) (a : α) : SortedMap κ α :=
  ⟨insertEntry k a m.entries, ascending_insertEntry k a m.ascending⟩

/-- The map of a list of entries; of several under one key the last counts. -/
def ofList (entries : List (κ × α)) : SortedMap κ α :=
  entries.foldl (fun m e => m.insert e.1 e.2) empty

end Lawful

/-! ## Look-up laws -/

@[simp] theorem get?_empty (k : κ) : (empty : SortedMap κ α).get? k = none := rfl

theorem findEntry_insertEntry [Std.TransOrd κ] [Std.LawfulEqOrd κ] (k k' : κ) (a : α) :
    ∀ (l : List (κ × α)),
      findEntry k' (insertEntry k a l) = if compare k' k = .eq then some a else findEntry k' l
  | [] => by simp [insertEntry, findEntry]
  | (k'', a'') :: rest => by
    rw [insertEntry]
    split
    · simp only [findEntry]
    · next heq =>
      rw [Std.LawfulEqCmp.eq_of_compare heq]
      simp only [findEntry]
      split <;> rfl
    · next hgt =>
      simp only [findEntry, findEntry_insertEntry k k' a rest]
      by_cases h : compare k' k'' = .eq
      · have hne : compare k' k ≠ .eq := by
          rw [Std.LawfulEqCmp.eq_of_compare h, compare_gt_swap hgt]; decide
        rw [if_pos h, if_neg hne, if_pos h]
      · simp only [h, if_false]

/-- A key just set holds its value; every other key holds what it held. -/
theorem get?_insert [Std.TransOrd κ] [Std.LawfulEqOrd κ] (m : SortedMap κ α) (k k' : κ) (a : α) :
    (m.insert k a).get? k' = if compare k' k = .eq then some a else m.get? k' :=
  findEntry_insertEntry k k' a m.entries

theorem findEntry_filter_ne [Std.LawfulEqOrd κ] (k k' : κ) : ∀ (l : List (κ × α)),
    findEntry k' (l.filter fun e => compare k e.1 != .eq) =
      if compare k' k = .eq then none else findEntry k' l
  | [] => by simp [findEntry]
  | (k'', a) :: rest => by
    by_cases h : compare k k'' = .eq
    · have hk : k = k'' := Std.LawfulEqCmp.eq_of_compare h
      subst hk
      rw [List.filter_cons_of_neg (by simp), findEntry_filter_ne k k' rest]
      split
      · rfl
      · next hne => simp [findEntry, hne]
    · rw [List.filter_cons_of_pos (by simpa using h)]
      simp only [findEntry, findEntry_filter_ne k k' rest]
      by_cases h' : compare k' k'' = .eq
      · have hne : ¬ compare k' k = .eq := fun e => by
          have := Std.LawfulEqCmp.eq_of_compare e
          exact h (by rw [← this, h'])
        rw [if_pos h', if_neg hne, if_pos h']
      · simp only [h', if_false]

/-- An erased key holds nothing; every other key holds what it held. -/
theorem get?_erase [Std.LawfulEqOrd κ] (m : SortedMap κ α) (k k' : κ) :
    (m.erase k).get? k' = if compare k' k = .eq then none else m.get? k' :=
  findEntry_filter_ne k k' m.entries

theorem findEntry_map (f : α → β) (k : κ) : ∀ (l : List (κ × α)),
    findEntry k (l.map fun e => (e.1, f e.2)) = (findEntry k l).map f
  | [] => rfl
  | (k', a) :: rest => by
    simp only [List.map_cons, findEntry, findEntry_map f k rest]
    split <;> rfl

theorem get?_map (f : α → β) (m : SortedMap κ α) (k : κ) :
    (m.map f).get? k = (m.get? k).map f :=
  findEntry_map f k m.entries

/-! ## One representation per map -/

/-- Below the first key of an ascending list nothing is found. -/
theorem findEntry_eq_none_of_lt [Std.TransOrd κ] {k : κ} : ∀ {l : List (κ × α)},
    (∀ e ∈ l, compare k e.1 = .lt) → findEntry k l = none
  | [], _ => rfl
  | (k', a) :: rest, h => by
    have hlt : compare k k' = .lt := h (k', a) List.mem_cons_self
    rw [findEntry, if_neg (by rw [hlt]; decide)]
    exact findEntry_eq_none_of_lt fun e he => h e (List.mem_cons_of_mem _ he)

theorem entries_ext [Std.TransOrd κ] [Std.LawfulEqOrd κ] : ∀ {l l' : List (κ × α)},
    Ascending l → Ascending l' → (∀ k, findEntry k l = findEntry k l') → l = l'
  | [], [], _, _, _ => rfl
  | [], (k, a) :: rest, _, _, h => by
    have := h k
    simp [findEntry] at this
  | (k, a) :: rest, [], _, _, h => by
    have := h k
    simp [findEntry] at this
  | (k, a) :: rest, (k', a') :: rest', hl, hl', h => by
    have hl1 := List.pairwise_cons.mp hl
    have hl2 := List.pairwise_cons.mp hl'
    have hself : ∀ (x : κ) (y : α) (l : List (κ × α)), findEntry x ((x, y) :: l) = some y := by
      intro x y l; simp [findEntry]
    match hc : compare k k' with
    | .lt =>
      have hk := h k
      rw [hself, findEntry_eq_none_of_lt] at hk
      · exact absurd hk (by simp)
      · intro e he
        rcases List.mem_cons.mp he with rfl | he
        · exact hc
        · exact Std.TransCmp.lt_trans hc (hl2.1 e he)
    | .gt =>
      have hlt := compare_gt_swap hc
      have hk := h k'
      rw [hself, findEntry_eq_none_of_lt] at hk
      · exact absurd hk (by simp)
      · intro e he
        rcases List.mem_cons.mp he with rfl | he
        · exact hlt
        · exact Std.TransCmp.lt_trans hlt (hl1.1 e he)
    | .eq =>
      have hk : k = k' := Std.LawfulEqCmp.eq_of_compare hc
      subst hk
      have ha : a = a' := by have := h k; rw [hself, hself] at this; exact Option.some.inj this
      subst ha
      have hrest : ∀ x, findEntry x rest = findEntry x rest' := by
        intro x
        by_cases hx : compare x k = .eq
        · have : x = k := Std.LawfulEqCmp.eq_of_compare hx
          subst this
          rw [findEntry_eq_none_of_lt hl1.1, findEntry_eq_none_of_lt hl2.1]
        · have := h x
          simpa [findEntry, hx] using this
      rw [entries_ext hl1.2 hl2.2 hrest]

/-- Maps with the same look-ups are the same map. -/
theorem ext_get? [Std.TransOrd κ] [Std.LawfulEqOrd κ] {m m' : SortedMap κ α}
    (h : ∀ k, m.get? k = m'.get? k) : m = m' := by
  obtain ⟨l, hl⟩ := m
  obtain ⟨l', hl'⟩ := m'
  have : l = l' := entries_ext hl hl' h
  subst this
  rfl

/-! ## Entries and their number -/

section Entries

theorem filter_ne_of_lt {k : κ} {l : List (κ × α)} (h : ∀ e ∈ l, compare k e.1 = .lt) :
    l.filter (fun e => compare k e.1 != .eq) = l := by
  refine List.filter_eq_self.mpr fun e he => ?_
  rw [h e he]
  rfl

theorem size_erase_le (m : SortedMap κ α) (k : κ) : (m.erase k).size ≤ m.size :=
  List.length_filter_le _ _

theorem pairwise_keys (m : SortedMap κ α) : m.keys.Pairwise fun a b => compare a b = .lt :=
  List.pairwise_map.mpr m.ascending

theorem keys_map (f : α → β) (m : SortedMap κ α) : (m.map f).keys = m.keys :=
  List.map_map

variable [Std.LawfulEqOrd κ]

theorem findEntry_isSome_iff {k : κ} : ∀ {l : List (κ × α)},
    (findEntry k l).isSome = true ↔ k ∈ l.map Prod.fst
  | [] => by simp [findEntry]
  | (k', a) :: rest => by
    rw [findEntry, List.map_cons, List.mem_cons, ← findEntry_isSome_iff (l := rest)]
    by_cases h : compare k k' = .eq
    · simp [Std.LawfulEqCmp.eq_of_compare h]
    · have hne : k ≠ k' := fun e => h (Std.LawfulEqCmp.compare_eq_iff_eq.mpr e)
      simp [h, hne]

theorem mem_keys_iff {m : SortedMap κ α} {k : κ} : k ∈ m.keys ↔ m.contains k = true :=
  findEntry_isSome_iff.symm

theorem perm_of_findEntry {k : κ} {a : α} : ∀ {l : List (κ × α)}, Ascending l →
    findEntry k l = some a → l.Perm ((k, a) :: l.filter fun e => compare k e.1 != .eq)
  | [], _, h => absurd h (by simp [findEntry])
  | (k', a') :: rest, hl, h => by
    have hrest := List.pairwise_cons.mp hl
    rw [findEntry] at h
    split at h
    · next heq =>
      obtain rfl : k = k' := Std.LawfulEqCmp.eq_of_compare heq
      obtain rfl : a' = a := Option.some.inj h
      rw [List.filter_cons_of_neg (by simp), filter_ne_of_lt hrest.1]
    · next hne =>
      rw [List.filter_cons_of_pos (by simpa using hne)]
      exact ((perm_of_findEntry hrest.2 h).cons (k', a')).trans (.swap _ _ _)

variable {m : SortedMap κ α} {k : κ} {a : α}

/-- The entry of a key and those of the other keys are all there are. -/
theorem entries_perm (h : m.get? k = some a) :
    m.entries.Perm ((k, a) :: (m.erase k).entries) :=
  perm_of_findEntry m.ascending h

theorem size_of_get? (h : m.get? k = some a) : m.size = (m.erase k).size + 1 :=
  (entries_perm h).length_eq

theorem nodup_keys (m : SortedMap κ α) : m.keys.Nodup := by
  refine m.pairwise_keys.imp ?_
  rintro k k' hlt rfl
  exact absurd hlt (by simp)

theorem mem_entries_iff {m : SortedMap κ α} {k : κ} {a : α} :
    (k, a) ∈ m.entries ↔ m.get? k = some a := by
  constructor
  · intro hmem
    have hcontains : m.contains k = true := mem_keys_iff.mp (List.mem_map_of_mem hmem)
    obtain ⟨a', hget⟩ := Option.isSome_iff_exists.mp hcontains
    rcases List.mem_cons.mp ((entries_perm hget).mem_iff.mp hmem) with heq | hother
    · rw [hget, (Prod.mk.inj heq).2]
    · exact absurd (List.mem_filter.mp hother).2 (by simp)
  · intro hget
    exact (entries_perm hget).mem_iff.mpr List.mem_cons_self

theorem mem_values_iff {m : SortedMap κ α} {a : α} : a ∈ m.values ↔ ∃ k, m.get? k = some a := by
  rw [values, List.mem_map]
  constructor
  · rintro ⟨⟨k, a'⟩, hmem, rfl⟩
    exact ⟨k, mem_entries_iff.mp hmem⟩
  · rintro ⟨k, hget⟩
    exact ⟨(k, a), mem_entries_iff.mpr hget, rfl⟩

variable [Std.TransOrd κ]

theorem erase_eq_self (h : m.get? k = none) : m.erase k = m := by
  refine ext_get? fun k' => ?_
  rw [get?_erase]
  split
  · next heq => rw [Std.LawfulEqCmp.eq_of_compare heq, h]
  · rfl

/-- The keys of a map are in order, so they are known by what is among them. -/
theorem keys_eq_of_contains {m' : SortedMap κ β} (h : ∀ k, m.contains k = m'.contains k) :
    m.keys = m'.keys := by
  have hunits : m.map (fun _ => ()) = m'.map (fun _ => ()) := by
    refine ext_get? fun k => ?_
    have hk := h k
    rw [contains, contains] at hk
    rw [get?_map, get?_map]
    cases hget : m.get? k <;> cases hget' : m'.get? k <;> simp_all
  rw [← keys_map (fun _ => ()) m, hunits, keys_map]

/-- Erasing a key forgets what it was set to. -/
theorem erase_insert (m : SortedMap κ α) (k : κ) (a : α) :
    (m.insert k a).erase k = m.erase k := by
  refine ext_get? fun k' => ?_
  rw [get?_erase, get?_erase, get?_insert]
  split <;> rfl

theorem size_insert (m : SortedMap κ α) (k : κ) (a : α) :
    (m.insert k a).size = (m.erase k).size + 1 := by
  have h : (m.insert k a).get? k = some a := by simp [get?_insert]
  rw [size_of_get? h, erase_insert]

/-- What is under a key after entries were put into a map: the entry of that key, or what was there
before if there is none. -/
theorem get?_foldl_insert (l : List (κ × α)) (hkeys : (l.map Prod.fst).Nodup) {k : κ} {a : α} :
    ∀ (m : SortedMap κ α),
      (l.foldl (fun m e => m.insert e.1 e.2) m).get? k = some a ↔
        (k, a) ∈ l ∨ (k ∉ l.map Prod.fst ∧ m.get? k = some a) := by
  induction l with
  | nil => simp
  | cons e l ih =>
    intro m
    obtain ⟨hfirst, hrest⟩ := List.nodup_cons.mp hkeys
    obtain ⟨k', a'⟩ := e
    rw [List.foldl_cons, ih hrest, get?_insert]
    by_cases hk : k = k'
    · subst hk
      have hnot : (k, a) ∉ l := fun hmem => hfirst (List.mem_map.mpr ⟨(k, a), hmem, rfl⟩)
      simp [hnot, hfirst, eq_comm]
    · simp [hk]

/-- The map of a list of entries has exactly these, whatever their order. -/
theorem get?_ofList_iff {l : List (κ × α)} (hkeys : (l.map Prod.fst).Nodup) {k : κ} {a : α} :
    (ofList l).get? k = some a ↔ (k, a) ∈ l := by
  rw [ofList, get?_foldl_insert l hkeys]
  simp

/-- The order in which entries are listed does not matter. -/
theorem ofList_eq_of_perm {l l' : List (κ × α)} (h : l.Perm l')
    (hkeys : (l.map Prod.fst).Nodup) : ofList l = ofList l' := by
  have hkeys' : (l'.map Prod.fst).Nodup := (h.map Prod.fst).nodup_iff.mp hkeys
  refine ext_get? fun k => Option.ext fun a => ?_
  rw [get?_ofList_iff hkeys, get?_ofList_iff hkeys', h.mem_iff]

/-- **The entries of a map make the map again, in any order.** -/
theorem ofList_of_perm {m : SortedMap κ α} {l : List (κ × α)} (h : l.Perm m.entries) :
    ofList l = m := by
  have hkeys : (l.map Prod.fst).Nodup := (h.map Prod.fst).nodup_iff.mpr m.nodup_keys
  refine ext_get? fun k => Option.ext fun a => ?_
  rw [get?_ofList_iff hkeys, h.mem_iff, mem_entries_iff]

end Entries

/-! ## Lists under keys -/

section Lists

variable [Std.TransOrd κ] [Std.LawfulEqOrd κ]

/-- Sets the list under a key. A key whose list is empty is not kept. -/
def insertList (m : SortedMap κ (List α)) (k : κ) (l : List α) : SortedMap κ (List α) :=
  if l.isEmpty then m.erase k else m.insert k l

theorem insertList_append_singleton (m : SortedMap κ (List α)) (k : κ) (l : List α) (a : α) :
    m.insertList k (l ++ [a]) = m.insert k (l ++ [a]) := by
  simp [insertList]

theorem get?_insertList (m : SortedMap κ (List α)) (k k' : κ) (l : List α) :
    (m.insertList k l).get? k' =
      if compare k' k = .eq then (if l.isEmpty then none else some l) else m.get? k' := by
  rw [insertList]
  split
  · rw [get?_erase]
  · rw [get?_insert]

theorem erase_insertList (m : SortedMap κ (List α)) (k : κ) (l : List α) :
    (m.insertList k l).erase k = m.erase k := by
  refine ext_get? fun k' => ?_
  rw [get?_erase, get?_erase, get?_insertList]
  split <;> rfl

/-- A list that is not kept counts as empty. -/
theorem getD_get?_insertList (m : SortedMap κ (List α)) (k k' : κ) (l : List α) :
    ((m.insertList k l).get? k').getD [] =
      if compare k' k = .eq then l else (m.get? k').getD [] := by
  rw [get?_insertList]
  split
  · split
    · next hempty => exact (List.isEmpty_iff.mp hempty).symm
    · rfl
  · rfl

theorem contains_insertList (m : SortedMap κ (List α)) (k k' : κ) (l : List α) :
    (m.insertList k l).contains k' =
      if compare k' k = .eq then !l.isEmpty else m.contains k' := by
  rw [contains, get?_insertList]
  split
  · cases l.isEmpty <;> rfl
  · rfl

end Lists

end SortedMap

end RuleLang
