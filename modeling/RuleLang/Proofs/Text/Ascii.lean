import RuleLang.Proofs.Text.Caseless

/-!
# ASCII texts

The matcher goes by the folds of characters, the table by the lower-case form of a symbol. Beyond
ASCII these are two notions of case; **where one of two texts is ASCII they are one**: the other has
the same lower-case form only if it has the same folds (`map_fold_of_lower_eq`), and for two ASCII
texts the converse holds as well (`lower_of_map_fold_eq`).

Not only ASCII characters have an ASCII lower-case form: that of the Kelvin sign is `k`. It is the
only exception, and its fold is `k` too.
-/

set_option autoImplicit false

namespace RuleLang.Text

/-- Whether all characters of a text are ASCII. -/
def Ascii (text : List Char) : Prop := ∀ c ∈ text, c.toNat < 128

-- Characters are finitely many, but they are not to be enumerated.
instance (text : List Char) : Decidable (Ascii text) :=
  List.decidableBAll (fun c : Char => c.toNat < 128) text

variable {text other before : List Char} {c : Char}

theorem Ascii.of_isInfix (h : Ascii text) (hother : other <:+: text) : Ascii other :=
  fun c hc => h c (hother.subset hc)

theorem Ascii.head (h : Ascii (c :: text)) : c.toNat < 128 := h c List.mem_cons_self

theorem Ascii.tail (h : Ascii (c :: text)) : Ascii text :=
  fun d hd => h d (List.mem_cons_of_mem c hd)

/-! ## Characters -/

theorem lowerChar_of_ascii (h : c.toNat < 128) : lowerChar c = c.toLower := by
  rw [lowerChar, if_pos h]

theorem fold_of_ascii (h : c.toNat < 128) : fold c = c.toLower := by
  rw [fold, if_pos h]

theorem toLower_ascii (h : c.toNat < 128) : c.toLower.toNat < 128 := by
  have hall : ∀ n < 128, (Char.ofNat n).toLower.toNat < 128 := by decide +kernel
  simpa using hall c.toNat h

/-- The code point of the Kelvin sign. -/
def kelvin : Nat := 0x212A

/-- Whether a run leads to characters beyond ASCII, and to nothing that is no character. -/
def CaseRun.BeyondAscii (run : CaseRun) : Prop :=
  128 ≤ run.forms.1 ∧ (run.forms.2 < 0xD800 ∨ 0xDFFF < run.forms.1 ∧ run.forms.2 < 0x110000)

instance (run : CaseRun) : Decidable run.BeyondAscii :=
  inferInstanceAs (Decidable (_ ∧ _))

theorem beyondAscii_of_mem_lowerRuns :
    ∀ run ∈ lowerRuns, run.letters = (kelvin, kelvin) ∨ run.BeyondAscii := by
  decide +kernel

theorem toNat_ofNat_of_beyondAscii {run : CaseRun} (h : run.BeyondAscii) {n : Nat}
    (hn : run.forms.1 ≤ n ∧ n ≤ run.forms.2) : 128 ≤ (Char.ofNat n).toNat := by
  obtain ⟨hbeyond, hchars⟩ := h
  have hvalid : n.isValidChar := by
    show n < 0xD800 ∨ 0xDFFF < n ∧ n < 0x110000
    omega
  have hchar : (Char.ofNat n).toNat = n := by
    rw [Char.ofNat, dif_pos hvalid]
    rfl
  omega

/-- **Only the Kelvin sign has an ASCII lower-case form without being ASCII.** -/
theorem eq_kelvin_of_lowerChar_ascii (hc : ¬ c.toNat < 128) (h : (lowerChar c).toNat < 128) :
    c.toNat = kelvin := by
  rw [lowerChar, if_neg hc] at h
  cases hform : formIn lowerRuns c with
  | none =>
    rw [hform] at h
    exact absurd h hc
  | some d =>
    rw [hform, Option.getD_some] at h
    obtain ⟨n, hfind, rfl⟩ := Option.map_eq_some_iff.mp hform
    obtain ⟨run, hrun, happly⟩ := List.exists_of_findSome?_eq_some hfind
    unfold CaseRun.apply? at happly
    split at happly
    · next hin =>
      obtain rfl := Option.some.inj happly
      rcases beyondAscii_of_mem_lowerRuns run hrun with hkelvin | hbeyond
      · obtain ⟨hfirst, hlast⟩ := Prod.mk.inj hkelvin
        omega
      · have hforms := toNat_ofNat_of_beyondAscii hbeyond (n := run.target + (c.toNat - run.first))
          ⟨Nat.le_add_right _ _, Nat.add_le_add_left (Nat.sub_le_sub_right hin.2.1 _) _⟩
        omega
    · exact absurd happly (by simp)

/-- An ASCII lower-case form is the fold. -/
theorem lowerChar_eq_fold (h : (lowerChar c).toNat < 128) : lowerChar c = fold c := by
  by_cases hc : c.toNat < 128
  · rw [lowerChar_of_ascii hc, fold_of_ascii hc]
  · have hkelvin : c = Char.ofNat kelvin := by
      rw [← eq_kelvin_of_lowerChar_ascii hc h, Char.ofNat_toNat]
    rw [hkelvin]
    decide +kernel

/-! ## Texts -/

/-- A lower-case form that is ASCII is that of each character by itself: no final sigma is in it,
nor what the dotted capital I becomes. -/
theorem lowerFrom_eq_map_fold (h : Ascii (lowerFrom before text)) :
    lowerFrom before text = text.map fold := by
  induction text generalizing before with
  | nil => rfl
  | cons c rest ih =>
    rw [lowerFrom] at h ⊢
    split at h
    · have hsigma : (if startsCased before && !startsCased rest then 'ς' else 'σ').toNat < 128 :=
        h _ (by simp)
      split at hsigma <;> exact absurd hsigma (by decide)
    · split at h
      · exact absurd (h '\u0307' (by simp)) (by decide)
      · next hsigma hdotted =>
        rw [if_neg hsigma, if_neg hdotted, ih h.tail, lowerChar_eq_fold h.head]
        rfl

theorem lowerFrom_of_ascii (h : Ascii text) : lowerFrom before text = text.map fold := by
  induction text generalizing before with
  | nil => rfl
  | cons c rest ih =>
    have hc := h.head
    have hsigma : c ≠ 'Σ' := fun heq => absurd (heq ▸ hc) (by decide)
    have hdotted : c ≠ 'İ' := fun heq => absurd (heq ▸ hc) (by decide)
    rw [lowerFrom, if_neg hsigma, if_neg hdotted, ih h.tail, lowerChar_of_ascii hc,
      ← fold_of_ascii hc]
    rfl

theorem ascii_map_fold (h : Ascii text) : Ascii (text.map fold) := by
  intro d hd
  obtain ⟨c, hc, rfl⟩ := List.mem_map.mp hd
  rw [fold_of_ascii (h c hc)]
  exact toLower_ascii (h c hc)

/-- The key of an ASCII symbol is its fold. -/
theorem lower_of_ascii {s : String} (h : Ascii s.toList) :
    lower s = String.ofList (s.toList.map fold) := by
  rw [lower, lowerFrom_of_ascii h]

/-- **A text with the lower-case form of an ASCII text has its folds.** -/
theorem map_fold_of_lower_eq {s s' : String} (h : Ascii s'.toList) (hlower : lower s = lower s') :
    s.toList.map fold = s'.toList.map fold := by
  have hforms : lowerFrom [] s.toList = s'.toList.map fold := by
    rw [lower_of_ascii h] at hlower
    exact String.ofList_injective hlower
  rw [← hforms, lowerFrom_eq_map_fold (hforms ▸ ascii_map_fold h)]

/-- **ASCII texts of the same folds have the same lower-case form.** -/
theorem lower_of_map_fold_eq {s s' : String} (h : Ascii s.toList) (h' : Ascii s'.toList)
    (hfold : s.toList.map fold = s'.toList.map fold) : lower s = lower s' := by
  rw [lower_of_ascii h, lower_of_ascii h', hfold]

end RuleLang.Text
