import Mathlib.Algebra.Order.Group.Nat
import RuleLang.Proofs.Decimal.Value

/-!
# What a decimal is written as reads back

Reading a number may round it: digits that do not fit are dropped. What a decimal was written as has
none of them, because its digits are those of its coefficient and no more follow the point than its
scale says. Main statement: **the text of a decimal is read as that decimal** (`ofText?_toText`),
except that a zero loses its sign. So there is one text for every value (`valueText_eq_iff`).
-/

set_option autoImplicit false

namespace RuleLang

namespace Decimal

/-! ## Digits -/

theorem ne_of_isDigit {c d : Char} (h : c.isDigit = true) (hd : d.isDigit = false) : c ≠ d := by
  rintro rfl
  exact absurd (h.symm.trans hd) (by simp)

theorem digits?_of_isDigit {cs : List Char} (h : ∀ c ∈ cs, c.isDigit = true) :
    digits? cs = some (cs.map fun c => c.toNat - '0'.toNat) := by
  have hfilter : cs.filter (· != '_') = cs := by
    refine List.filter_eq_self.mpr fun c hc => ?_
    simpa using ne_of_isDigit (h c hc) (show '_'.isDigit = false from rfl)
  rw [digits?, hfilter]
  clear hfilter
  induction cs with
  | nil => rfl
  | cons c cs ih =>
    have hc : digit? c = some (c.toNat - '0'.toNat) := by
      rw [digit?, if_pos (h c (List.mem_cons_self ..))]
    rw [List.mapM_cons, hc, ih fun d hd => h d (List.mem_cons_of_mem c hd)]
    rfl

/-- What digits after others make of the number before them. -/
theorem foldl_digits (cs : List Char) (n : Nat) :
    (cs.map fun c => c.toNat - '0'.toNat).foldl (fun n d => 10 * n + d) n =
      Nat.ofDigitChars 10 cs n := by
  rw [List.foldl_map, Nat.ofDigitChars_eq_foldl]

theorem isDigit_of_mem_lastDigits {c : Char} (count : Nat) :
    ∀ {n : Nat}, c ∈ lastDigits count n → c.isDigit = true := by
  induction count with
  | zero =>
    intro n h
    exact absurd h List.not_mem_nil
  | succ count ih =>
    intro n h
    rw [lastDigits, List.mem_append, List.mem_singleton] at h
    rcases h with h | rfl
    · exact ih h
    · rw [Nat.isDigit_digitChar]
      simpa using Nat.mod_lt n (by decide : 0 < 10)

theorem length_lastDigits (count : Nat) : ∀ n, (lastDigits count n).length = count := by
  induction count with
  | zero => exact fun _ => rfl
  | succ count ih =>
    intro n
    simp [lastDigits, ih]

/-- The digits that are cut off, behind the others, give the number back. -/
theorem ofDigitChars_lastDigits (count : Nat) :
    ∀ n, Nat.ofDigitChars 10 (lastDigits count n) (n / 10 ^ count) = n := by
  induction count with
  | zero => exact fun n => Nat.div_one n
  | succ count ih =>
    intro n
    have hdiv : n / 10 ^ (count + 1) = n / 10 / 10 ^ count := by
      rw [Nat.div_div_eq_div_mul, Nat.pow_succ']
    rw [lastDigits, Nat.ofDigitChars_append, hdiv, ih,
      Nat.ofDigitChars_cons_digitChar_of_lt_ten (Nat.mod_lt n (by decide)), Nat.ofDigitChars_nil]
    exact Nat.div_add_mod n 10

/-! ## Reading -/

theorem le_foldl_digits (digits : List Nat) :
    ∀ n, n ≤ digits.foldl (fun n d => 10 * n + d) n := by
  induction digits with
  | nil => exact fun n => Nat.le_refl n
  | cons digit digits ih =>
    intro n
    exact Nat.le_trans (by omega) (ih (10 * n + digit))

/-- **A fraction that fits is read digit by digit**, and nothing is rounded. -/
theorem appendFraction_of_fits (digits : List Nat) : ∀ {coefficient scale : Nat},
    scale + digits.length ≤ 28 →
      digits.foldl (fun n d => 10 * n + d) coefficient < Nat.pow 2 96 →
        appendFraction coefficient scale digits =
          some (digits.foldl (fun n d => 10 * n + d) coefficient, scale + digits.length) := by
  induction digits with
  | nil => exact fun _ _ => rfl
  | cons digit digits ih =>
    intro coefficient scale hscale hfits
    rw [List.length_cons] at hscale
    rw [List.foldl_cons] at hfits
    have hnext : 10 * coefficient + digit < Nat.pow 2 96 :=
      Nat.lt_of_le_of_lt (le_foldl_digits digits _) hfits
    rw [appendFraction, if_pos ⟨by omega, hnext⟩, ih (by omega) hfits, List.foldl_cons,
      List.length_cons]
    congr 2
    omega

/-- The digits of a decimal before the point. -/
def wholeDigits (d : Decimal) : List Char := Nat.toDigits 10 (d.coefficient / Nat.pow 10 d.scale)

/-- The digits of a decimal after the point. -/
def fractionDigits (d : Decimal) : List Char := lastDigits d.scale d.coefficient

variable (d : Decimal)

theorem isDigit_of_mem_wholeDigits : ∀ c ∈ d.wholeDigits, c.isDigit = true :=
  fun _ => Nat.isDigit_of_mem_toDigits (by decide) (by decide)

theorem isDigit_of_mem_fractionDigits : ∀ c ∈ d.fractionDigits, c.isDigit = true :=
  fun _ => isDigit_of_mem_lastDigits d.scale

theorem startsWithDigit_wholeDigits (more : List Char) :
    startsWithDigit (d.wholeDigits ++ more) = true := by
  have hdigits := d.isDigit_of_mem_wholeDigits
  cases hwhole : d.wholeDigits with
  | nil => exact absurd hwhole Nat.toDigits_ne_nil
  | cons c cs => exact hdigits c (hwhole ▸ List.mem_cons_self ..)

theorem splitSign_of_startsWithDigit {body : List Char} (h : startsWithDigit body = true)
    (negative : Bool) :
    splitSign ((if negative then ['-'] else []) ++ body) = (negative, body) := by
  cases negative with
  | true => rfl
  | false =>
    cases body with
    | nil => exact absurd h (by simp [startsWithDigit])
    | cons c body =>
      have hc : c.isDigit = true := h
      have hminus : c ≠ '-' := ne_of_isDigit hc rfl
      have hplus : c ≠ '+' := ne_of_isDigit hc rfl
      show splitSign (c :: body) = _
      unfold splitSign
      split
      · next heq => exact absurd (List.cons.inj heq).1 hminus
      · next heq => exact absurd (List.cons.inj heq).1 hplus
      · rfl

theorem splitPoint_chars :
    splitPoint (d.wholeDigits ++ (if d.scale = 0 then [] else '.' :: d.fractionDigits)) =
      (d.wholeDigits, d.fractionDigits) := by
  have hpoint : ∀ c ∈ d.wholeDigits, (c != '.') = true := by
    intro c hc
    have hdot : '.'.isDigit = false := rfl
    simpa using ne_of_isDigit (d.isDigit_of_mem_wholeDigits c hc) hdot
  unfold splitPoint
  rw [List.takeWhile_append_of_pos hpoint, List.dropWhile_append_of_pos hpoint]
  split
  · next hzero => simp [fractionDigits, hzero, lastDigits]
  · simp

theorem appendFraction_chars :
    appendFraction (d.coefficient / Nat.pow 10 d.scale) 0
        (d.fractionDigits.map fun c => c.toNat - '0'.toNat) =
      some (d.coefficient, d.scale) := by
  have hcoefficient : (d.fractionDigits.map fun c => c.toNat - '0'.toNat).foldl
      (fun n d => 10 * n + d) (d.coefficient / Nat.pow 10 d.scale) = d.coefficient := by
    rw [foldl_digits]
    exact ofDigitChars_lastDigits d.scale d.coefficient
  have hlength : (d.fractionDigits.map fun c => c.toNat - '0'.toNat).length = d.scale := by
    rw [List.length_map]
    exact length_lastDigits d.scale d.coefficient
  rw [appendFraction_of_fits, hcoefficient, hlength, Nat.zero_add]
  · rw [hlength, Nat.zero_add]
    exact d.scale_le
  · rw [hcoefficient]
    exact d.coefficient_lt

/-- A decimal whose zero has no sign. -/
def unsignedZero (d : Decimal) : Decimal :=
  { d with negative := d.negative && d.coefficient != 0 }

theorem value_unsignedZero : d.unsignedZero.value = d.value := by
  unfold value unsignedZero signed
  by_cases hzero : d.coefficient = 0
  · simp [hzero]
  · simp [hzero]

/-- **What a decimal is written as is read as that decimal**, a zero without its sign. -/
theorem plain?_chars : plain? d.chars = some d.unsignedZero := by
  have hchars : d.chars = (if d.negative then ['-'] else []) ++
      (d.wholeDigits ++ (if d.scale = 0 then [] else '.' :: d.fractionDigits)) :=
    List.append_assoc _ _ _
  have hwhole : ofDigits (d.wholeDigits.map fun c => c.toNat - '0'.toNat) =
      d.coefficient / Nat.pow 10 d.scale := by
    rw [ofDigits, foldl_digits]
    exact Nat.ofDigitChars_ten_toDigits
  have hfits : d.coefficient / Nat.pow 10 d.scale < Nat.pow 2 96 :=
    Nat.lt_of_le_of_lt (Nat.div_le_self _ _) d.coefficient_lt
  unfold plain?
  rw [hchars, splitSign_of_startsWithDigit (d.startsWithDigit_wholeDigits _)]
  simp only [splitPoint_chars, startsWithDigit_wholeDigits,
    digits?_of_isDigit d.isDigit_of_mem_wholeDigits,
    digits?_of_isDigit d.isDigit_of_mem_fractionDigits, hwhole, hfits, appendFraction_chars,
    guard_true, Option.pure_def, Option.bind_eq_bind, Option.bind_some]
  exact dif_pos ⟨d.coefficient_lt, d.scale_le⟩

theorem isBlank_of_mem_chars : ∀ c ∈ d.chars, Text.isBlank c = false := by
  have hdigit {c : Char} (h : c.isDigit = true) : Text.isBlank c = false := by
    obtain ⟨hlow, hhigh⟩ := Char.isDigit_iff_toNat.mp h
    have hzero : '0'.toNat = 0x30 := rfl
    have hnine : '9'.toNat = 0x39 := rfl
    exact Text.isBlank_of_toNat (by omega) (by omega)
  intro c hc
  rw [chars, List.mem_append, List.mem_append] at hc
  rcases hc with (hsign | hwhole) | hfraction
  · split at hsign
    · obtain rfl := List.mem_singleton.mp hsign
      decide
    · exact absurd hsign List.not_mem_nil
  · exact hdigit (d.isDigit_of_mem_wholeDigits c hwhole)
  · split at hfraction
    · exact absurd hfraction List.not_mem_nil
    · rcases List.mem_cons.mp hfraction with rfl | hfraction
      · decide
      · exact hdigit (d.isDigit_of_mem_fractionDigits c hfraction)

theorem trim_toText : Text.trim d.toText = d.toText := by
  rw [Text.trim, toText, String.toList_ofList, Text.trimmed_eq_self d.isBlank_of_mem_chars]

theorem ofText?_toText : ofText? d.toText = some d.unsignedZero := by
  rw [ofText?, toText, String.toList_ofList, ofChars?, plain?_chars]
  rfl

/-! ## Texts of values -/

variable {d}

/-- The text of a value is read as a decimal of that value. -/
theorem exists_ofText?_valueText (d : Decimal) :
    ∃ e, ofText? (Text.trim d.valueText) = some e ∧ e.value = d.value := by
  refine ⟨d.normalize.unsignedZero, ?_, ?_⟩
  · rw [valueText, trim_toText, ofText?_toText]
  · rw [value_unsignedZero, value_normalize]

/-- **There is one text for every value.** -/
theorem valueText_eq_iff {a b : Decimal} : a.valueText = b.valueText ↔ a.value = b.value := by
  refine ⟨fun h => ?_, valueText_congr⟩
  obtain ⟨d, hd, ha⟩ := exists_ofText?_valueText a
  obtain ⟨e, he, hb⟩ := exists_ofText?_valueText b
  obtain rfl : d = e := Option.some.inj (hd.symm.trans (h ▸ he))
  exact ha.symm.trans hb

end Decimal

end RuleLang
