import RuleLang.Operator.Matcher
import RuleLang.Proofs.Segment.Scan
import RuleLang.Proofs.Text.Caseless

/-!
# What a matcher finds

A matcher finds a text whose fold is one of its symbols, at the place where it stands
(`eq_of_find?`), and finds one wherever there is one (`find?_eq_none_iff`). Where several symbols
match it finds the longest, because **longer symbols are tried first** (`longest_of_find?`); so a
match that no other one exceeds is what is found (`find?_of_longest`), and two matchers with the
same symbols at the beginning of a text find the same (`find?_congr`).
-/

set_option autoImplicit false

namespace RuleLang.Matcher

variable {text found rest : List Char} {symbols : List String}

/-! ## One symbol -/

theorem matchFolded_eq_some_iff : ∀ {symbol text found rest : List Char},
    matchFolded symbol text = some (found, rest) ↔
      found.map Text.fold = symbol ∧ text = found ++ rest := by
  intro symbol
  induction symbol with
  | nil =>
    intro text found rest
    simp only [matchFolded, Option.some.injEq, Prod.mk.injEq, List.map_eq_nil_iff]
    constructor
    · rintro ⟨rfl, rfl⟩
      exact ⟨rfl, rfl⟩
    · rintro ⟨rfl, rfl⟩
      exact ⟨rfl, rfl⟩
  | cons d symbol ih =>
    intro text found rest
    cases text with
    | nil => cases found <;> simp [matchFolded]
    | cons c text =>
      rw [matchFolded]
      constructor
      · intro h
        split at h
        · next hfold =>
          obtain ⟨⟨found', rest'⟩, hmatch, hcons⟩ := Option.map_eq_some_iff.mp h
          obtain ⟨rfl, rfl⟩ := Prod.mk.inj hcons
          obtain ⟨rfl, rfl⟩ := ih.mp hmatch
          rw [← hfold]
          exact ⟨rfl, rfl⟩
        · exact absurd h (by simp)
      · rintro ⟨hsymbol, htext⟩
        cases found with
        | nil => exact absurd hsymbol (by simp)
        | cons c' found =>
          obtain ⟨hfold, hfound⟩ := List.cons.inj hsymbol
          obtain ⟨rfl, hrest⟩ := List.cons.inj htext
          rw [if_pos hfold, ih.mpr ⟨hfound, hrest⟩]
          rfl

/-! ## The order in which symbols are tried -/

theorem mem_insertSymbol {symbol other : String} (sorted : List String) :
    other ∈ insertSymbol symbol sorted ↔ other = symbol ∨ other ∈ sorted := by
  induction sorted with
  | nil => simp [insertSymbol]
  | cons first sorted ih =>
    rw [insertSymbol]
    split
    · simp
    · rw [List.mem_cons, ih, List.mem_cons, or_left_comm]

theorem mem_foldr_insertSymbol {symbol : String} (symbols : List String) :
    symbol ∈ symbols.foldr insertSymbol [] ↔ symbol ∈ symbols := by
  induction symbols with
  | nil => simp
  | cons first symbols ih => rw [List.foldr_cons, mem_insertSymbol, ih, List.mem_cons]

/-- Longer symbols come first. -/
def LongestFirst (sorted : List String) : Prop :=
  sorted.Pairwise fun a b => b.length ≤ a.length

theorem length_le_of_before {a b : String} (h : before a b = true) : b.length ≤ a.length := by
  unfold before at h
  simp only [Bool.or_eq_true, Bool.and_eq_true, decide_eq_true_eq, beq_iff_eq] at h
  omega

theorem length_le_of_not_before {a b : String} (h : ¬ before a b = true) :
    a.length ≤ b.length := by
  unfold before at h
  simp only [Bool.or_eq_true, decide_eq_true_eq] at h
  omega

theorem longestFirst_insertSymbol {symbol : String} {sorted : List String}
    (h : LongestFirst sorted) : LongestFirst (insertSymbol symbol sorted) := by
  induction sorted with
  | nil => exact List.pairwise_singleton _ _
  | cons first sorted ih =>
    obtain ⟨hfirst, hsorted⟩ := List.pairwise_cons.mp h
    rw [insertSymbol]
    split
    · next hbefore =>
      have hle := length_le_of_before hbefore
      refine List.pairwise_cons.mpr ⟨fun other hother => ?_, h⟩
      rcases List.mem_cons.mp hother with rfl | hother
      · exact hle
      · exact Nat.le_trans (hfirst other hother) hle
    · next hnot =>
      refine List.pairwise_cons.mpr ⟨fun other hother => ?_, ih hsorted⟩
      rcases (mem_insertSymbol sorted).mp hother with rfl | hother
      · exact length_le_of_not_before hnot
      · exact hfirst other hother

theorem longestFirst_foldr (symbols : List String) :
    LongestFirst (symbols.foldr insertSymbol []) := by
  induction symbols with
  | nil => exact List.Pairwise.nil
  | cons symbol symbols ih => exact longestFirst_insertSymbol ih

/-! ## The symbols of a matcher -/

/-- What a matcher of some symbols looks for: their folds and the parentheses. -/
theorem mem_ofSymbols {folded : List Char} :
    folded ∈ (ofSymbols symbols).symbols ↔
      (∃ symbol ∈ symbols, symbol.toList.map Text.fold = folded ∧ folded ≠ []) ∨
        folded ∈ parentheses := by
  rw [ofSymbols, List.mem_append, List.mem_filter, List.mem_map]
  simp only [decide_eq_true_eq, mem_foldr_insertSymbol]
  constructor
  · rintro (⟨⟨symbol, hmem, heq⟩, hne⟩ | hparen)
    · exact .inl ⟨symbol, hmem, heq, hne⟩
    · exact .inr hparen
  · rintro (⟨symbol, hmem, heq, hne⟩ | hparen)
    · exact .inl ⟨⟨symbol, hmem, heq⟩, hne⟩
    · exact .inr hparen

theorem length_of_mem_parentheses {folded : List Char} (h : folded ∈ parentheses) :
    folded.length = 1 := by
  simp only [parentheses, List.mem_cons, List.not_mem_nil, or_false] at h
  rcases h with rfl | rfl <;> rfl

theorem exists_eq_singleton_of_paren {folded : List Char} (h : folded ∈ parentheses) :
    ∃ c, folded = [c] :=
  List.length_eq_one_iff.mp (length_of_mem_parentheses h)

theorem has_caseless_of_paren {c : Char} (h : [c] ∈ parentheses) :
    Text.caseless.has c = true := by
  simp only [parentheses, List.mem_cons, List.cons.injEq, List.not_mem_nil, or_false,
    and_true] at h
  rcases h with rfl | rfl <;> decide +kernel

theorem map_fold_paren {folded : List Char} (h : folded ∈ parentheses) :
    folded.map Text.fold = folded := by
  obtain ⟨c, rfl⟩ := exists_eq_singleton_of_paren h
  rw [List.map_singleton, (Text.fold_eq_iff (has_caseless_of_paren h)).mpr rfl]

/-- **Longer symbols are tried first**; the parentheses are last, and nothing is shorter. -/
theorem pairwise_ofSymbols (symbols : List String) :
    (ofSymbols symbols).symbols.Pairwise fun a b => b.length ≤ a.length := by
  refine List.pairwise_append.mpr ⟨?_, ?_, ?_⟩
  · refine List.Pairwise.filter _ (List.pairwise_map.mpr ?_)
    simp only [List.length_map, String.length_toList]
    exact longestFirst_foldr symbols
  · simp [parentheses]
  · intro folded hfolded paren hparen
    have hne : folded ≠ [] := by simpa using (List.mem_filter.mp hfolded).2
    rw [length_of_mem_parentheses hparen]
    exact List.length_pos_iff.mpr hne

/-! ## What is found -/

theorem find?_eq (m : Matcher) (text : List Char) :
    m.recogniser.find? text = m.symbols.findSome? (matchFolded · text) := rfl

theorem eq_of_find? {m : Matcher} (h : m.recogniser.find? text = some (found, rest)) :
    found.map Text.fold ∈ m.symbols ∧ text = found ++ rest := by
  obtain ⟨symbol, hmem, hmatch⟩ := List.exists_of_findSome?_eq_some h
  obtain ⟨rfl, htext⟩ := matchFolded_eq_some_iff.mp hmatch
  exact ⟨hmem, htext⟩

theorem reads (m : Matcher) : m.recogniser.Reads id := fun h => (eq_of_find? h).2

theorem find?_eq_none_iff {m : Matcher} :
    m.recogniser.find? text = none ↔
      ∀ found rest, text = found ++ rest → found.map Text.fold ∉ m.symbols := by
  rw [find?_eq, List.findSome?_eq_none_iff]
  constructor
  · rintro h found rest htext hmem
    have hnone := h _ hmem
    rw [matchFolded_eq_some_iff.mpr ⟨rfl, htext⟩] at hnone
    exact absurd hnone (by simp)
  · intro h symbol hmem
    cases hmatch : matchFolded symbol text with
    | none => rfl
    | some match' =>
      obtain ⟨rfl, htext⟩ := matchFolded_eq_some_iff.mp hmatch
      exact absurd hmem (h _ _ htext)

/-- **What is found is the longest that there is to find.** -/
theorem longest_of_find? (h : (ofSymbols symbols).recogniser.find? text = some (found, rest))
    {other after : List Char} (hother : other.map Text.fold ∈ (ofSymbols symbols).symbols)
    (htext : text = other ++ after) : other.length ≤ found.length := by
  rw [find?_eq, List.findSome?_eq_some_iff] at h
  obtain ⟨tried, symbol, later, hsplit, hmatch, hnone⟩ := h
  obtain ⟨rfl, _⟩ := matchFolded_eq_some_iff.mp hmatch
  have hmatch' : matchFolded (other.map Text.fold) text = some (other, after) :=
    matchFolded_eq_some_iff.mpr ⟨rfl, htext⟩
  have hsorted := pairwise_ofSymbols symbols
  rw [hsplit] at hother hsorted
  rcases List.mem_append.mp hother with htried | hother
  · rw [hnone _ htried] at hmatch'
    exact absurd hmatch' (by simp)
  · have hle : (other.map Text.fold).length ≤ (found.map Text.fold).length := by
      rcases List.mem_cons.mp hother with heq | hlater
      · exact Nat.le_of_eq (congrArg List.length heq)
      · exact (List.pairwise_cons.mp (List.pairwise_append.mp hsorted).2.1).1 _ hlater
    simpa using hle

/-- **A match that no other one exceeds is found.** -/
theorem find?_of_longest (hfound : found.map Text.fold ∈ (ofSymbols symbols).symbols)
    (hlongest : ∀ other after, found ++ rest = other ++ after →
      other.map Text.fold ∈ (ofSymbols symbols).symbols → other.length ≤ found.length) :
    (ofSymbols symbols).recogniser.find? (found ++ rest) = some (found, rest) := by
  cases hfind : (ofSymbols symbols).recogniser.find? (found ++ rest) with
  | none => exact absurd hfound (find?_eq_none_iff.mp hfind _ _ rfl)
  | some match' =>
    obtain ⟨found', rest'⟩ := match'
    obtain ⟨hmem, htext⟩ := eq_of_find? hfind
    have hle := hlongest _ _ htext hmem
    have hge := longest_of_find? hfind hfound rfl
    obtain ⟨rfl, rfl⟩ := List.append_inj htext (Nat.le_antisymm hge hle)
    rfl

/-- **What is found in a text depends on the symbols that begin it**, and not on the order in which
symbols are given, nor on their casing. -/
theorem find?_congr {symbols' : List String}
    (h : ∀ found rest, text = found ++ rest →
      (found.map Text.fold ∈ (ofSymbols symbols).symbols ↔
        found.map Text.fold ∈ (ofSymbols symbols').symbols)) :
    (ofSymbols symbols).recogniser.find? text = (ofSymbols symbols').recogniser.find? text := by
  cases hfind : (ofSymbols symbols).recogniser.find? text with
  | none =>
    refine (find?_eq_none_iff.mpr fun found rest htext hmem => ?_).symm
    exact find?_eq_none_iff.mp hfind found rest htext ((h found rest htext).mpr hmem)
  | some match' =>
    obtain ⟨found, rest⟩ := match'
    obtain ⟨hmem, rfl⟩ := eq_of_find? hfind
    refine (find?_of_longest ((h found rest rfl).mp hmem) fun other after htext hother => ?_).symm
    exact longest_of_find? hfind ((h other after htext).mpr hother) htext

end RuleLang.Matcher
