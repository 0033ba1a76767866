import RuleLang.Value

/-!
# The two notations of a number

A number is written plainly or with an exponent, and **no text is both** (`scientific?_of_plain?`):
an exponent stands behind its mark, and a plain number has no letters. So it does not matter which
notation is tried first (`ofChars?_eq_some_iff`), and a text has a numeric view exactly if it is a
number in one of them (`asNumber?_text_eq_some_iff`).
-/

set_option autoImplicit false

namespace RuleLang

namespace Decimal

variable {cs : List Char} {d : Decimal}

/-! ## The characters of a plain number -/

/-- The characters that a plain number is written with. -/
def PlainCharacter (c : Char) : Prop := c.isDigit = true ∨ c ∈ ['+', '-', '.', '_']

theorem PlainCharacter.ne_mark {c : Char} (h : PlainCharacter c) : c ≠ 'e' ∧ c ≠ 'E' := by
  constructor <;> rintro rfl <;> exact absurd h (by unfold PlainCharacter; decide)

theorem isDigit_of_mapM {digits : List Nat} (h : cs.mapM digit? = some digits) :
    ∀ c ∈ cs, c.isDigit = true := by
  induction cs generalizing digits with
  | nil => exact fun c hc => absurd hc List.not_mem_nil
  | cons c cs ih =>
    simp only [List.mapM_cons, Option.bind_eq_bind, Option.bind_eq_some_iff] at h
    obtain ⟨digit, hdigit, rest, hrest, -⟩ := h
    refine List.forall_mem_cons.mpr ⟨?_, ih hrest⟩
    unfold digit? at hdigit
    split at hdigit
    · assumption
    · exact absurd hdigit (by simp)

theorem plainCharacter_of_digits? {digits : List Nat} (h : digits? cs = some digits) {c : Char}
    (hc : c ∈ cs) : PlainCharacter c := by
  by_cases hunderscore : c = '_'
  · exact .inr (by simp [hunderscore])
  · exact .inl (isDigit_of_mapM h c (List.mem_filter.mpr ⟨hc, by simpa using hunderscore⟩))

theorem mem_splitSign {c : Char} (hc : c ∈ cs) : PlainCharacter c ∨ c ∈ (splitSign cs).2 := by
  unfold splitSign
  split
  · exact (List.mem_cons.mp hc).imp_left fun hsign => .inr (by simp [hsign])
  · exact (List.mem_cons.mp hc).imp_left fun hsign => .inr (by simp [hsign])
  · exact .inr hc

theorem mem_splitPoint {c : Char} (hc : c ∈ cs) :
    c ∈ (splitPoint cs).1 ∨ PlainCharacter c ∨ c ∈ (splitPoint cs).2 := by
  rw [← List.takeWhile_append_dropWhile (p := (· != '.')) (l := cs), List.mem_append] at hc
  refine hc.imp_right fun hrest => ?_
  unfold splitPoint
  cases hpoint : cs.dropWhile (· != '.') with
  | nil => exact absurd (hpoint ▸ hrest) List.not_mem_nil
  | cons point fraction =>
    have hdot : point = '.' := by simpa using Text.dropWhile_eq_cons hpoint
    rw [hpoint] at hrest
    exact (List.mem_cons.mp hrest).imp_left fun heq => .inr (by simp [heq, hdot])

theorem plainCharacter_of_plain? (h : plain? cs = some d) {c : Char} (hc : c ∈ cs) :
    PlainCharacter c := by
  unfold plain? at h
  obtain ⟨-, -, h⟩ := Option.bind_eq_some_iff.mp h
  obtain ⟨whole, hwhole, h⟩ := Option.bind_eq_some_iff.mp h
  obtain ⟨fraction, hfraction, -⟩ := Option.bind_eq_some_iff.mp h
  rcases mem_splitSign hc with hsign | hbody
  · exact hsign
  · rcases mem_splitPoint hbody with hc | hpoint | hc
    · exact plainCharacter_of_digits? hwhole hc
    · exact hpoint
    · exact plainCharacter_of_digits? hfraction hc

/-! ## One notation or the other -/

/-- A number with an exponent has the mark of one. -/
theorem exists_mark_of_scientific? (h : scientific? cs = some d) : ∃ c ∈ cs, c = 'e' ∨ c = 'E' := by
  unfold scientific? at h
  simp only at h
  split at h
  · exact absurd h (by simp)
  · next mark _ hmark =>
    refine ⟨mark, (List.dropWhile_sublist _).subset (hmark ▸ List.mem_cons_self), ?_⟩
    have hstop := Text.dropWhile_eq_cons hmark
    simpa only [Bool.not_eq_eq_eq_not, Bool.not_false, Bool.or_eq_true, beq_iff_eq] using hstop

/-- **No text is a number in both notations.** -/
theorem scientific?_of_plain? (h : plain? cs = some d) : scientific? cs = none := by
  refine Option.eq_none_iff_forall_ne_some.mpr fun e he => ?_
  obtain ⟨c, hc, hmark⟩ := exists_mark_of_scientific? he
  obtain ⟨hlower, hupper⟩ := (plainCharacter_of_plain? h hc).ne_mark
  exact hmark.elim hlower hupper

/-- A number is one in plain or in scientific notation; the order of trying them is no matter. -/
theorem ofChars?_eq_some_iff :
    ofChars? cs = some d ↔ plain? cs = some d ∨ scientific? cs = some d := by
  unfold ofChars?
  cases hplain : plain? cs with
  | none => simp
  | some e => simp [scientific?_of_plain? hplain]

end Decimal

/-! ## Texts as numbers -/

namespace Value

/-- The numeric view of a text is the number that it is in one of the notations, blanks around it
apart. -/
theorem asNumber?_text_eq_some_iff {s : String} {d : Decimal} :
    (text s).asNumber? = some d ↔
      Decimal.plain? (Text.trimmed s.toList) = some d ∨
        Decimal.scientific? (Text.trimmed s.toList) = some d := by
  rw [asNumber?_text, Text.trim, Decimal.ofText?, String.toList_ofList,
    Decimal.ofChars?_eq_some_iff]

theorem asNumber?_text_append_blanks {before after : String}
    (hbefore : ∀ c ∈ before.toList, Text.isBlank c = true)
    (hafter : ∀ c ∈ after.toList, Text.isBlank c = true) (s : String) :
    (text (before ++ s ++ after)).asNumber? = (text s).asNumber? := by
  have htrim : Text.trim (before ++ s ++ after) = Text.trim s := by
    rw [Text.trim, String.toList_append, String.toList_append,
      Text.trimmed_append_blanks hbefore hafter, Text.trim]
  rw [asNumber?, asNumber?, htrim]

end Value

end RuleLang
