import RuleLang.Segment.Scan

/-!
# What a scan cuts

The three passes over a rule are one function with different recognisers, so what holds of any scan
is said here once. A scan loses nothing: **written one after the other, the pieces are the text**
(`flatMap_written_pieces`). It overlooks nothing: **at no place in a gap is there anything to find**
(`find?_in_gap`), **and where something was found, the recogniser finds just that**
(`find?_at_found`). It reads the endings of the text and no other texts (`pieces_congr`). And it can
be cut in two in front of a find, as long as what is found before that place does not depend on what
comes after it (`pieces_append`).
-/

set_option autoImplicit false

namespace RuleLang.Segment

universe u

variable {α : Type u} {r : Recogniser α} {write : α → List Char} {text front back rest : List Char}
  {a : α}

/-- The text that a piece was cut from, given how a find is written. -/
def Piece.written (write : α → List Char) : Piece α → List Char
  | .gap text => text
  | .found a => write a

/-- Whether a text is what was found at its beginning, as it is written, and what is left. -/
def Recogniser.Reads (r : Recogniser α) (write : α → List Char) : Prop :=
  ∀ {text rest : List Char} {a : α}, r.find? text = some (a, rest) → text = write a ++ rest

/-- Puts a text in front of pieces, into the gap they begin with if there is one. -/
def prependGap (text : List Char) (pieces : List (Piece α)) : List (Piece α) :=
  text.foldr extendGap pieces

namespace Recogniser

/-- A recogniser is what it finds. -/
theorem ext_find? {r r' : Recogniser α} (h : r.find? = r'.find?) : r = r' := by
  cases r
  cases r'
  cases h
  rfl

/-! ## One step -/

@[simp] theorem pieces_nil : r.pieces [] = [] := by
  rw [pieces]

theorem pieces_of_found (h : r.find? text = some (a, rest)) :
    r.pieces text = .found a :: r.pieces rest := by
  cases text with
  | nil => exact absurd (r.shorter h) (Nat.not_lt_zero _)
  | cons c cs =>
    rw [pieces]
    split
    · next a' rest' h' =>
      obtain ⟨rfl, rfl⟩ := Prod.mk.inj (Option.some.inj (h'.symm.trans h))
      rfl
    · next h' => exact absurd (h'.symm.trans h) (by simp)

theorem pieces_of_none {c : Char} {cs : List Char} (h : r.find? (c :: cs) = none) :
    r.pieces (c :: cs) = extendGap c (r.pieces cs) := by
  rw [pieces]
  split
  · next h' => exact absurd (h'.symm.trans h) (by simp)
  · rfl

/-- A scan goes on behind what it finds, and behind the first character where it finds nothing. -/
theorem pieces_induction {motive : List Char → Prop} (nil : motive [])
    (found : ∀ text a rest, r.find? text = some (a, rest) → motive rest → motive text)
    (gap : ∀ c cs, r.find? (c :: cs) = none → motive cs → motive (c :: cs)) (text : List Char) :
    motive text := by
  fun_induction pieces r text with
  | case1 => exact nil
  | case2 c cs a rest hfind ih => exact found (c :: cs) a rest hfind ih
  | case3 c cs hfind ih => exact gap c cs hfind ih

/-! ## Nothing is lost -/

theorem flatMap_written_extendGap (c : Char) (pieces : List (Piece α)) :
    (extendGap c pieces).flatMap (Piece.written write) =
      c :: pieces.flatMap (Piece.written write) := by
  unfold extendGap
  split <;> simp [Piece.written]

/-- **Written one after the other, the pieces are the text.** -/
theorem flatMap_written_pieces (h : r.Reads write) (text : List Char) :
    (r.pieces text).flatMap (Piece.written write) = text := by
  induction text using pieces_induction (r := r) with
  | nil => simp
  | found text a rest hfind ih =>
    rw [pieces_of_found hfind, List.flatMap_cons, ih, h hfind]
    rfl
  | gap c cs hfind ih => rw [pieces_of_none hfind, flatMap_written_extendGap, ih]

/-- What a piece was cut from stands in the text. -/
theorem isInfix_of_mem_pieces (h : r.Reads write) {piece : Piece α} (hmem : piece ∈ r.pieces text) :
    piece.written write <:+: text := by
  obtain ⟨before, after, hpieces⟩ := List.append_of_mem hmem
  have htext := flatMap_written_pieces h text
  rw [hpieces, List.flatMap_append, List.flatMap_cons, ← List.append_assoc] at htext
  exact ⟨_, _, htext⟩

/-! ## Nothing is overlooked -/

/-- **At no place in a gap is there anything to find**, whatever follows the gap. -/
theorem find?_in_gap (h : r.Reads write) (text : List Char) : ∀ (before : List (Piece α))
    {after : List (Piece α)} {front back : List Char},
      r.pieces text = before ++ .gap (front ++ back) :: after → back ≠ [] →
        r.find? (back ++ after.flatMap (Piece.written write)) = none := by
  induction text using pieces_induction (r := r) with
  | nil =>
    intro before after front back hpieces _
    exact absurd hpieces (by simp)
  | found text a rest hfind ih =>
    intro before after front back hpieces hback
    rw [pieces_of_found hfind] at hpieces
    cases before with
    | nil => exact absurd (List.cons.inj hpieces).1 (by simp)
    | cons p before => exact ih before (List.cons.inj hpieces).2 hback
  | gap c cs hfind ih =>
    intro before after front back hpieces hback
    have hcs := flatMap_written_pieces h cs
    rw [pieces_of_none hfind] at hpieces
    -- The character begins the gap in front; only that gap can hold it.
    unfold extendGap at hpieces
    split at hpieces
    · next g ps hps =>
      rw [hps] at hcs
      cases before with
      | nil =>
        obtain ⟨hgap, rfl⟩ := List.cons.inj hpieces
        obtain hgap := Piece.gap.inj hgap
        cases front with
        | nil =>
          rw [List.nil_append] at hgap
          have hhere : cs = g ++ ps.flatMap (Piece.written write) := hcs.symm
          rw [← hgap, List.cons_append, ← hhere]
          exact hfind
        | cons d front => exact ih [] (by rw [hps, (List.cons.inj hgap).2]; rfl) hback
      | cons p before =>
        obtain ⟨_, rfl⟩ := List.cons.inj hpieces
        exact ih (.gap g :: before) (by rw [hps]; rfl) hback
    · next hno =>
      cases before with
      | nil =>
        obtain ⟨hgap, rfl⟩ := List.cons.inj hpieces
        obtain hgap := Piece.gap.inj hgap
        rw [hcs]
        rcases List.append_eq_singleton_iff.mp hgap.symm with ⟨_, rfl⟩ | ⟨_, rfl⟩
        · exact hfind
        · exact absurd rfl hback
      | cons p before => exact ih before (List.cons.inj hpieces).2 hback

/-- **Where something was found, the recogniser finds it**, the rest of the text being what the
pieces after it were cut from. -/
theorem find?_at_found (h : r.Reads write) (text : List Char) : ∀ (before : List (Piece α))
    {after : List (Piece α)} {a : α}, r.pieces text = before ++ .found a :: after →
      r.find? (write a ++ after.flatMap (Piece.written write)) =
        some (a, after.flatMap (Piece.written write)) := by
  induction text using pieces_induction (r := r) with
  | nil =>
    intro before after a hpieces
    exact absurd hpieces (by simp)
  | found text a' rest hfind ih =>
    intro before after a hpieces
    rw [pieces_of_found hfind] at hpieces
    cases before with
    | nil =>
      obtain ⟨hfound, rfl⟩ := List.cons.inj hpieces
      obtain rfl : a' = a := Piece.found.inj hfound
      rw [flatMap_written_pieces h, ← h hfind, hfind]
    | cons piece before => exact ih before (List.cons.inj hpieces).2
  | gap c cs hfind ih =>
    intro before after a hpieces
    rw [pieces_of_none hfind] at hpieces
    -- The character belongs to a gap, so there is a piece before the find.
    unfold extendGap at hpieces
    split at hpieces
    · next gap pieces hgap =>
      cases before with
      | nil => exact absurd (List.cons.inj hpieces).1 (by simp)
      | cons piece before =>
        obtain ⟨-, rfl⟩ := List.cons.inj hpieces
        exact ih (.gap gap :: before) hgap
    · cases before with
      | nil => exact absurd (List.cons.inj hpieces).1 (by simp)
      | cons piece before => exact ih before (List.cons.inj hpieces).2

theorem exists_find?_of_found_mem (h : r.Reads write) (hmem : .found a ∈ r.pieces text) :
    ∃ here rest, r.find? here = some (a, rest) := by
  obtain ⟨before, after, hpieces⟩ := List.append_of_mem hmem
  exact ⟨_, _, find?_at_found h text before hpieces⟩

/-! ## What a scan reads -/

/-- **A scan reads the endings of the text**: recognisers that find the same there cut the text into
the same pieces. -/
theorem pieces_congr {r' : Recogniser α} (h : r.Reads write) (text : List Char)
    (hagree : ∀ tail, tail <:+ text → r.find? tail = r'.find? tail) :
    r.pieces text = r'.pieces text := by
  induction text using pieces_induction (r := r) with
  | nil => rw [pieces_nil, pieces_nil]
  | found text a rest hfind ih =>
    have hrest : rest <:+ text := h hfind ▸ List.suffix_append _ _
    have hfind' := hagree text (List.suffix_refl text)
    rw [hfind] at hfind'
    rw [pieces_of_found hfind, pieces_of_found hfind'.symm,
      ih fun tail htail => hagree tail (htail.trans hrest)]
  | gap c cs hfind ih =>
    have hfind' := hagree (c :: cs) (List.suffix_refl _)
    rw [hfind] at hfind'
    rw [pieces_of_none hfind, pieces_of_none hfind'.symm,
      ih fun tail htail => hagree tail (htail.trans (List.suffix_cons c cs))]

/-! ## Cutting a scan in two -/

theorem extendGap_append_found (c : Char) (before after : List (Piece α)) :
    extendGap c (before ++ .found a :: after) = extendGap c before ++ .found a :: after := by
  cases before with
  | nil => rfl
  | cons p before => cases p <;> rfl

/-- **A scan can be cut in front of a find**, if everything before it is found, or not found, as if
the text ended there. -/
theorem pieces_append (h : r.Reads write) (hback : r.find? back = some (a, rest))
    (hfront : ∀ tail, tail <:+ front → tail ≠ [] →
      r.find? (tail ++ back) = (r.find? tail).map fun found => (found.1, found.2 ++ back)) :
    r.pieces (front ++ back) = r.pieces front ++ .found a :: r.pieces rest := by
  induction front using pieces_induction (r := r) with
  | nil =>
    rw [pieces_nil]
    exact pieces_of_found hback
  | found text a' rest' hfind ih =>
    have hsuffix : rest' <:+ text := h hfind ▸ List.suffix_append _ _
    have hne : text ≠ [] := by
      rintro rfl
      exact absurd (r.shorter hfind) (Nat.not_lt_zero _)
    have hfind' : r.find? (text ++ back) = some (a', rest' ++ back) := by
      rw [hfront text (List.suffix_refl text) hne, hfind]
      rfl
    rw [pieces_of_found hfind', pieces_of_found hfind,
      ih fun tail htail => hfront tail (htail.trans hsuffix)]
    rfl
  | gap c cs hfind ih =>
    have hfind' : r.find? (c :: (cs ++ back)) = none := by
      have := hfront (c :: cs) (List.suffix_refl _) (by simp)
      rwa [hfind] at this
    rw [List.cons_append, pieces_of_none hfind', pieces_of_none hfind,
      ih fun tail htail => hfront tail (htail.trans (List.suffix_cons c cs)),
      extendGap_append_found]

/-- Where nothing is found, the text becomes a gap, or part of one. -/
theorem pieces_prepend
    (h : ∀ tail, tail <:+ front → tail ≠ [] → r.find? (tail ++ back) = none) :
    r.pieces (front ++ back) = prependGap front (r.pieces back) := by
  induction front with
  | nil => rfl
  | cons c cs ih =>
    have hfind := h (c :: cs) (List.suffix_refl _) (by simp)
    rw [List.cons_append] at hfind ⊢
    rw [pieces_of_none hfind, ih fun tail htail => h tail (htail.trans (List.suffix_cons c cs))]
    rfl

end Recogniser

/-! ## Gaps in front -/

theorem prependGap_gap (text gap : List Char) (pieces : List (Piece α)) :
    prependGap text (.gap gap :: pieces) = .gap (text ++ gap) :: pieces := by
  induction text with
  | nil => rfl
  | cons c cs ih =>
    rw [prependGap, List.foldr_cons, ← prependGap, ih]
    rfl

theorem prependGap_of_ne_nil (hne : text ≠ []) {pieces : List (Piece α)}
    (hpieces : ∀ gap after, pieces ≠ .gap gap :: after) :
    prependGap text pieces = .gap text :: pieces := by
  induction text with
  | nil => exact absurd rfl hne
  | cons c cs ih =>
    rw [prependGap, List.foldr_cons, ← prependGap]
    cases cs with
    | nil =>
      show extendGap c pieces = _
      unfold extendGap
      split
      · next gap after => exact absurd rfl (hpieces gap after)
      · rfl
    | cons d cs =>
      rw [ih (by simp)]
      rfl

/-- A text in which nothing is found is a gap. -/
theorem Recogniser.pieces_of_nothing (hne : text ≠ [])
    (h : ∀ tail, tail <:+ text → tail ≠ [] → r.find? tail = none) :
    r.pieces text = [.gap text] := by
  have hpieces : r.pieces (text ++ []) = prependGap text (r.pieces []) :=
    pieces_prepend fun tail htail htailne => by
      rw [List.append_nil]
      exact h tail htail htailne
  rw [List.append_nil, pieces_nil] at hpieces
  rw [hpieces, prependGap_of_ne_nil hne (by simp)]

end RuleLang.Segment
