import RuleLang.Text.Blank
import RuleLang.Text.Fold

/-!
# Characters without case

Blanks and parentheses are recognised as they are: **no other character has the same fold**
(`fold_eq_iff`), and no other text has one of them as its lower-case form
(`lower_eq_singleton_iff`). So a symbol that is found where blanks and parentheses stand is spelled
with those very characters, and a parenthesis is not another spelling of anything.

The letters that have a form of their own are in tables of runs. A run and its forms lie in two
ranges of code points, so it is enough to see that none of these ranges meets the blanks or the
parentheses.
-/

set_option autoImplicit false

namespace RuleLang.Text

/-! ## Sets that have no character in common -/

/-- Whether no range of one set meets a range of the other. -/
def CharSet.apart (set other : CharSet) : Bool :=
  set.all fun range => other.all fun range' => range.2 < range'.1 || range'.2 < range.1

theorem CharSet.has_eq_false_of_apart {set other : CharSet} (h : set.apart other = true) {c : Char}
    (hc : set.has c = true) : other.has c = false := by
  rw [Bool.eq_false_iff]
  intro hother
  obtain ⟨range, hrange, hle⟩ := CharSet.has_iff.mp hc
  obtain ⟨range', hrange', hle'⟩ := CharSet.has_iff.mp hother
  have hapart := List.all_eq_true.mp (List.all_eq_true.mp h range hrange) range' hrange'
  simp only [Bool.or_eq_true, decide_eq_true_eq] at hapart
  omega

/-! ## What runs hold and what they lead to -/

/-- A range that holds the letters of a run. -/
def CaseRun.letters (run : CaseRun) : Nat × Nat := (run.first, run.last)

/-- A range that holds the forms of the letters of a run. -/
def CaseRun.forms (run : CaseRun) : Nat × Nat :=
  (run.target, run.target + (run.last - run.first))

theorem toNat_ofNat (n : Nat) : (Char.ofNat n).toNat = n ∨ Char.ofNat n = '\x00' := by
  by_cases hvalid : n.isValidChar
  · left
    rw [Char.ofNat, dif_pos hvalid]
    rfl
  · right
    rw [Char.ofNat, dif_neg hvalid]
    rfl

/-- The letters of ASCII and of both tables, and all of their forms. -/
def letters : CharSet :=
  [(0x41, 0x5A), (0x61, 0x7A), (0, 0)] ++ (lowerRuns ++ foldRuns).map CaseRun.letters ++
    (lowerRuns ++ foldRuns).map CaseRun.forms

theorem has_letters_of_mem (range : Nat × Nat) (h : range ∈ letters) {c : Char}
    (hc : range.1 ≤ c.toNat ∧ c.toNat ≤ range.2) : letters.has c = true :=
  CharSet.has_iff.mpr ⟨range, h, hc⟩

/-- Only letters have a form of their own, and the form is a letter as well. -/
theorem has_letters_of_formIn {runs : List CaseRun} (hruns : runs ⊆ lowerRuns ++ foldRuns)
    {c d : Char} (h : formIn runs c = some d) : letters.has c = true ∧ letters.has d = true := by
  obtain ⟨n, hfind, rfl⟩ := Option.map_eq_some_iff.mp h
  obtain ⟨run, hrun, happly⟩ := List.exists_of_findSome?_eq_some hfind
  unfold CaseRun.apply? at happly
  split at happly
  · next hin =>
    obtain rfl := Option.some.inj happly
    constructor
    · refine has_letters_of_mem run.letters ?_ ⟨hin.1, hin.2.1⟩
      exact List.mem_append_left _ (List.mem_append_right _ (List.mem_map_of_mem (hruns hrun)))
    · rcases toNat_ofNat (run.target + (c.toNat - run.first)) with hn | hnull
      · refine has_letters_of_mem run.forms
          (List.mem_append_right _ (List.mem_map_of_mem (hruns hrun))) ?_
        rw [hn]
        simp only [CaseRun.forms]
        omega
      · -- A code point that no character has counts as that of the null character.
        rw [hnull]
        exact has_letters_of_mem (0, 0) (by simp [letters]) (by decide)
  · exact absurd happly (by simp)

theorem has_letters_of_toLower {c : Char} (h : c.toLower ≠ c) :
    letters.has c = true ∧ letters.has c.toLower = true := by
  unfold Char.toLower at h ⊢
  split at h
  · next hupper =>
    have hle : 0x41 ≤ c.toNat ∧ c.toNat ≤ 0x5A := hupper
    rw [dif_pos hupper]
    refine ⟨has_letters_of_mem (0x41, 0x5A) (by simp [letters]) hle,
      has_letters_of_mem (0x61, 0x7A) (by simp [letters]) ?_⟩
    have hval : (c.val + ('a'.val - 'A'.val)).toNat = c.toNat + 0x20 := by
      rw [UInt32.toNat_add, show ('a'.val - 'A'.val).toNat = 0x20 from rfl]
      exact Nat.mod_eq_of_lt (by simp only [Char.toNat] at hle; omega)
    simp only [Char.toNat] at hle hval ⊢
    omega
  · exact absurd rfl h

theorem lowerChar_eq_self_or (c : Char) :
    lowerChar c = c ∨ (letters.has c = true ∧ letters.has (lowerChar c) = true) := by
  unfold lowerChar
  split
  · exact Decidable.or_iff_not_imp_left.mpr has_letters_of_toLower
  · cases hform : formIn lowerRuns c with
    | none => exact .inl rfl
    | some d => exact .inr (has_letters_of_formIn (List.subset_append_left _ _) hform)

/-- **Folding changes letters only, and only to letters.** -/
theorem fold_eq_self_or (c : Char) :
    fold c = c ∨ (letters.has c = true ∧ letters.has (fold c) = true) := by
  unfold fold
  split
  · exact Decidable.or_iff_not_imp_left.mpr has_letters_of_toLower
  · cases hform : formIn foldRuns c with
    | none => exact lowerChar_eq_self_or c
    | some d => exact .inr (has_letters_of_formIn (List.subset_append_right _ _) hform)

/-! ## Blanks and parentheses -/

/-- The two parentheses and the blanks. -/
def caseless : CharSet := (0x28, 0x29) :: blanks

theorem has_caseless_of_isBlank {c : Char} (h : isBlank c = true) : caseless.has c = true := by
  unfold isBlank CharSet.has at h
  rw [CharSet.has, caseless, List.any_cons, h, Bool.or_true]

theorem apart_letters : letters.apart caseless = true := by
  decide +kernel

theorem has_letters_eq_false {d : Char} (h : caseless.has d = true) : letters.has d = false := by
  rw [Bool.eq_false_iff]
  intro hletter
  have hapart := CharSet.has_eq_false_of_apart apart_letters hletter
  rw [h] at hapart
  exact Bool.noConfusion hapart

/-- A form that changes letters only, and only to letters, leaves blanks and parentheses alone, and
makes nothing into one. -/
theorem form_eq_iff {form : Char → Char}
    (hform : ∀ c, form c = c ∨ (letters.has c = true ∧ letters.has (form c) = true)) {c d : Char}
    (h : caseless.has d = true) : form c = d ↔ c = d := by
  have hd := has_letters_eq_false h
  constructor
  · rintro rfl
    rcases hform c with hself | ⟨_, hletter⟩
    · exact hself.symm
    · rw [hd] at hletter
      exact Bool.noConfusion hletter
  · rintro rfl
    rcases hform c with hself | ⟨hletter, _⟩
    · exact hself
    · rw [hd] at hletter
      exact Bool.noConfusion hletter

/-- **No other character has the fold of a blank or a parenthesis.** -/
theorem fold_eq_iff {c d : Char} (h : caseless.has d = true) : fold c = d ↔ c = d :=
  form_eq_iff fold_eq_self_or h

theorem lowerChar_eq_iff {c d : Char} (h : caseless.has d = true) : lowerChar c = d ↔ c = d :=
  form_eq_iff lowerChar_eq_self_or h

/-- Every character has a lower-case form, so one that makes up the whole form is the form of the
only character. -/
theorem eq_singleton_of_lowerFrom {d : Char} (h : caseless.has d = true) :
    ∀ {before cs : List Char}, lowerFrom before cs = [d] → cs = [d]
  | _, [], hlower => absurd hlower (by simp [lowerFrom])
  | before, c :: rest, hlower => by
    have hnil {before' : List Char} (hrest : lowerFrom before' rest = []) : rest = [] := by
      cases rest with
      | nil => rfl
      | cons c' rest =>
        rw [lowerFrom] at hrest
        split at hrest
        · exact absurd hrest (by simp)
        · split at hrest <;> exact absurd hrest (by simp)
    rw [lowerFrom] at hlower
    split at hlower
    · -- A sigma stays a sigma, and that is a letter.
      obtain ⟨hsigma, -⟩ := List.cons.inj hlower
      rw [← hsigma] at h
      split at h <;> exact absurd h (by decide +kernel)
    · split at hlower
      · exact absurd (congrArg List.length hlower) (by simp)
      · obtain ⟨hc, hrest⟩ := List.cons.inj hlower
        rw [(lowerChar_eq_iff h).mp hc, hnil hrest]

/-- **No other text has a blank or a parenthesis as its lower-case form.** -/
theorem lower_eq_singleton_iff {d : Char} (h : caseless.has d = true) {s : String} :
    lower s = String.ofList [d] ↔ s = String.ofList [d] := by
  constructor
  · intro hlower
    have hs : s.toList = [d] := eq_singleton_of_lowerFrom h (String.ofList_injective hlower)
    rw [← hs, String.ofList_toList]
  · rintro rfl
    have hsigma : d ≠ 'Σ' := by
      rintro rfl
      exact absurd h (by decide +kernel)
    have hdotted : d ≠ 'İ' := by
      rintro rfl
      exact absurd h (by decide +kernel)
    rw [lower, String.toList_ofList, lowerFrom, if_neg hsigma, if_neg hdotted,
      (lowerChar_eq_iff h).mpr rfl]
    rfl

theorem eq_of_map_fold_eq : ∀ {cs ds : List Char}, (∀ d ∈ ds, caseless.has d = true) →
    cs.map fold = ds.map fold → cs = ds
  | [], [], _, _ => rfl
  | [], _ :: _, _, h => absurd h (by simp)
  | _ :: _, [], _, h => absurd h (by simp)
  | c :: cs, d :: ds, hds, h => by
    rw [List.map_cons, List.map_cons, List.cons.injEq] at h
    have hd := hds d List.mem_cons_self
    obtain rfl : c = d := (fold_eq_iff hd).mp (h.1.trans ((fold_eq_iff hd).mpr rfl))
    rw [eq_of_map_fold_eq (fun d hd => hds d (List.mem_cons_of_mem _ hd)) h.2]

end RuleLang.Text
