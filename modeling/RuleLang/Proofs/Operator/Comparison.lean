import RuleLang.Operator.Builtin
import RuleLang.Proofs.Decimal.Value
import RuleLang.Proofs.Text.Bytes

/-!
# The laws of comparison

Two values are compared as numbers where both are numbers or write one, and as texts otherwise, so
the four comparisons look at a pair of values in one of two ways. Main statement: **they agree with
each other on every pair** (`comparison_laws`), because all of them go through one order of the two
values (`order_cases`), which turns around with its operands (`order_swap`).

Among values that are seen in one way only, being less is a strict weak order, and its equivalence
is being equal. Among all values it goes in circles.
-/

set_option autoImplicit false

namespace RuleLang

/-! ## The two views -/

theorem Decimal.compare_swap (a b : Decimal) : (a.compare b).swap = b.compare a :=
  Int.compare_swap _ _

/-- Every value but `null` has a text. -/
theorem Value.exists_asText? {v : Value} (h : v ≠ .null) : ∃ s, v.asText? = some s := by
  cases v with
  | null => exact absurd rfl h
  | number d => exact ⟨_, rfl⟩
  | text s => exact ⟨_, rfl⟩
  | boolean b => exact ⟨_, rfl⟩
  | list items => exact ⟨_, rfl⟩

namespace Operator

variable {l r v : Value}

/-! ## The order of two values -/

theorem orderOrReason_of_numbers {d e : Decimal} (hl : l.asNumber? = some d)
    (hr : r.asNumber? = some e) : orderOrReason l r = .ok (d.compare e) := by
  rw [orderOrReason, hl, hr]

theorem orderOrReason_of_texts {s t : String} (hnone : l.asNumber? = none ∨ r.asNumber? = none)
    (hl : l.asText? = some s) (hr : r.asText? = some t) :
    orderOrReason l r = .ok (compare s t) := by
  unfold orderOrReason
  split
  · next hd he => simp [hd, he] at hnone
  · rw [hl, hr]

theorem orderOrReason_of_null (h : l = .null ∨ r = .null) :
    orderOrReason l r = .error .undefined := by
  unfold orderOrReason
  rcases h with rfl | rfl
  · rfl
  · have hnull : (l.isNull || Value.null.isNull) = true := Bool.or_true _
    cases l.asNumber? <;> cases l.asText? <;> exact if_pos hnull

theorem order_of_numbers {d e : Decimal} (hl : l.asNumber? = some d) (hr : r.asNumber? = some e) :
    order l r = .ok (d.compare e) := by
  rw [order, orderOrReason_of_numbers hl hr]
  rfl

theorem order_of_texts {s t : String} (hnone : l.asNumber? = none ∨ r.asNumber? = none)
    (hl : l.asText? = some s) (hr : r.asText? = some t) : order l r = .ok (compare s t) := by
  rw [order, orderOrReason_of_texts hnone hl hr]
  rfl

theorem order_of_null (h : l = .null ∨ r = .null) : order l r = .error .undefined := by
  rw [order, orderOrReason_of_null h]
  rfl

/-- **Two values are compared as numbers, as texts, or not at all.** -/
theorem order_cases (l r : Value) :
    (∃ d e, l.asNumber? = some d ∧ r.asNumber? = some e ∧ order l r = .ok (d.compare e)) ∨
    (∃ s t, (l.asNumber? = none ∨ r.asNumber? = none) ∧ l.asText? = some s ∧ r.asText? = some t ∧
      order l r = .ok (compare s t)) ∨
    ((l = .null ∨ r = .null) ∧ order l r = .error .undefined) := by
  by_cases hnull : l = .null ∨ r = .null
  · exact .inr (.inr ⟨hnull, order_of_null hnull⟩)
  · obtain ⟨hl, hr⟩ := not_or.mp hnull
    obtain ⟨s, hs⟩ := Value.exists_asText? hl
    obtain ⟨t, ht⟩ := Value.exists_asText? hr
    cases hd : l.asNumber? with
    | none => exact .inr (.inl ⟨s, t, .inl rfl, hs, ht, order_of_texts (.inl hd) hs ht⟩)
    | some d =>
      cases he : r.asNumber? with
      | none => exact .inr (.inl ⟨s, t, .inr rfl, hs, ht, order_of_texts (.inr he) hs ht⟩)
      | some e => exact .inl ⟨d, e, rfl, rfl, order_of_numbers hd he⟩

/-- **No two values are incomparable**: the one reason for there being no order is `null`. -/
theorem orderOrReason_eq (l r : Value) :
    orderOrReason l r = (order l r).mapError fun _ => .undefined := by
  rcases order_cases l r with ⟨d, e, hd, he, h⟩ | ⟨s, t, hnone, hs, ht, h⟩ | ⟨hnull, h⟩
  · rw [h, orderOrReason_of_numbers hd he]
    rfl
  · rw [h, orderOrReason_of_texts hnone hs ht]
    rfl
  · rw [h, orderOrReason_of_null hnull]
    rfl

theorem exists_order (hl : l ≠ .null) (hr : r ≠ .null) : ∃ o, order l r = .ok o := by
  rcases order_cases l r with ⟨_, _, _, _, h⟩ | ⟨_, _, _, _, _, h⟩ | ⟨hnull, _⟩
  · exact ⟨_, h⟩
  · exact ⟨_, h⟩
  · exact absurd hnull (not_or.mpr ⟨hl, hr⟩)

/-- **The order turns around with its operands.** -/
theorem order_swap (l r : Value) : order r l = (order l r).map Ordering.swap := by
  rcases order_cases l r with ⟨d, e, hd, he, h⟩ | ⟨s, t, hnone, hs, ht, h⟩ | ⟨hnull, h⟩
  · rw [h, order_of_numbers he hd, ← Decimal.compare_swap]
    rfl
  · rw [h, order_of_texts hnone.symm ht hs, Std.OrientedOrd.eq_swap]
    rfl
  · rw [h, order_of_null hnull.symm]
    rfl

theorem order_self (h : v ≠ .null) : order v v = .ok .eq := by
  rcases order_cases v v with ⟨d, e, hd, he, hv⟩ | ⟨s, t, _, hs, ht, hv⟩ | ⟨hnull, _⟩
  · obtain rfl : d = e := Option.some.inj (hd.symm.trans he)
    rw [hv, Decimal.compare, Std.compare_self]
  · obtain rfl : s = t := Option.some.inj (hs.symm.trans ht)
    rw [hv, Std.compare_self]
  · exact absurd hnull (by simp [h])

/-! ## Equality -/

theorem same_of_order {o : Ordering} (h : order l r = .ok o) : same l r = (o == .eq) := by
  have hnull : ¬ (l = .null ∨ r = .null) := by
    intro hnull
    exact absurd (h.symm.trans (order_of_null hnull)) (by simp)
  obtain ⟨hl, hr⟩ := not_or.mp hnull
  unfold same
  split
  · exact absurd rfl hl
  · exact absurd rfl hl
  · exact absurd rfl hr
  · rw [h]
    cases o <;> rfl

theorem same_null_iff (h : l = .null ∨ r = .null) : same l r = true ↔ l = .null ∧ r = .null := by
  rcases h with rfl | rfl
  · cases r <;> simp [same]
  · cases l <;> simp [same]

theorem same_comm (l r : Value) : same l r = same r l := by
  by_cases hnull : l = .null ∨ r = .null
  · rw [Bool.eq_iff_iff, same_null_iff hnull, same_null_iff hnull.symm, and_comm]
  · obtain ⟨hl, hr⟩ := not_or.mp hnull
    obtain ⟨o, ho⟩ := exists_order hl hr
    have hswap : order r l = .ok o.swap := by
      rw [order_swap l r, ho]
      rfl
    rw [same_of_order ho, same_of_order hswap]
    cases o <;> rfl

theorem same_self (v : Value) : same v v = true := by
  by_cases hnull : v = .null
  · exact (same_null_iff (.inl hnull)).mpr ⟨hnull, hnull⟩
  · rw [same_of_order (order_self hnull)]
    rfl

/-! ## Strict weak orders -/

/-- Whether a value is less than another one. -/
def Less (l r : Value) : Prop := lessThan l r = .ok (.boolean true)

instance (l r : Value) : Decidable (Less l r) := inferInstanceAs (Decidable (_ = _))

theorem lessThan_of_order {o : Ordering} (h : order l r = .ok o) :
    lessThan l r = .ok (.boolean (o == .lt)) := by
  rw [lessThan, h]
  rfl

theorem greaterThan_of_order {o : Ordering} (h : order l r = .ok o) :
    greaterThan l r = .ok (.boolean (o == .gt)) := by
  rw [greaterThan, h]
  rfl

theorem less_iff_of_order {o : Ordering} (h : order l r = .ok o) : Less l r ↔ o = .lt := by
  rw [Less, lessThan_of_order h]
  cases o <;> simp

theorem greaterThan_eq_lessThan (l r : Value) : greaterThan l r = lessThan r l := by
  rw [greaterThan, lessThan, order_swap l r]
  cases order l r with
  | error cause => rfl
  | ok o => cases o <;> rfl

/-- What is less by a key in a linear order is less in a strict weak order. -/
theorem isStrictWeakOrder_of_key {α κ : Type} [LinearOrder κ] {less : α → α → Prop} (key : α → κ)
    (h : ∀ a b, less a b ↔ key a < key b) : IsStrictWeakOrder α less where
  irrefl a := by
    rw [h]
    exact lt_irrefl _
  trans a b c := by
    rw [h, h, h]
    exact lt_trans
  incomp_trans a b c := by
    simp only [h, not_lt]
    rintro ⟨hba, hab⟩ ⟨hcb, hbc⟩
    exact ⟨hcb.trans hba, hab.trans hbc⟩

/-- Numbers, and texts that write one, are less as their values are. -/
theorem less_iff_value_lt {d e : Decimal} (hl : l.asNumber? = some d) (hr : r.asNumber? = some e) :
    Less l r ↔ d.value < e.value := by
  rw [less_iff_of_order (order_of_numbers hl hr), Decimal.compare_eq, compareOfLessAndEq_eq_lt]

/-- What is not seen as a number is less as the bytes of its text are. -/
theorem less_iff_bytes_lt {s t : String} (hnone : l.asNumber? = none ∨ r.asNumber? = none)
    (hl : l.asText? = some s) (hr : r.asText? = some t) :
    Less l r ↔ Text.bytes s < Text.bytes t := by
  rw [less_iff_of_order (order_of_texts hnone hl hr), Text.compare_eq_bytes,
    compareOfLessAndEq_eq_lt]

/-- The values that are seen as numbers. -/
abbrev Numeric : Type := {v : Value // v.asNumber?.isSome = true}

/-- The values that are seen as texts only. -/
abbrev Textual : Type := {v : Value // v ≠ .null ∧ v.asNumber? = none}

theorem isStrictWeakOrder_numeric :
    IsStrictWeakOrder Numeric fun l r => Less l.val r.val := by
  refine isStrictWeakOrder_of_key (fun v => (v.val.asNumber?.get v.property).value) fun l r => ?_
  exact less_iff_value_lt (Option.some_get _).symm (Option.some_get _).symm

theorem isStrictWeakOrder_textual :
    IsStrictWeakOrder Textual fun l r => Less l.val r.val := by
  refine isStrictWeakOrder_of_key (fun v => v.val.asText?.getD "") fun l r => ?_
  obtain ⟨s, hs⟩ := Value.exists_asText? l.property.1
  obtain ⟨t, ht⟩ := Value.exists_asText? r.property.1
  rw [less_iff_bytes_lt (.inl l.property.2) hs ht, ← Text.lt_iff_bytes_lt, hs, ht]
  rfl

/-- Where neither of two values is less, they are equal. -/
theorem not_less_iff_equal (hl : l ≠ .null) (hr : r ≠ .null) :
    ¬ Less l r ∧ ¬ Less r l ↔ equal l r = .ok (.boolean true) := by
  obtain ⟨o, ho⟩ := exists_order hl hr
  have hswap : order r l = .ok o.swap := by
    rw [order_swap l r, ho]
    rfl
  rw [less_iff_of_order ho, less_iff_of_order hswap, equal, same_of_order ho]
  cases o <;> simp

/-! ## The main statement -/

/-- **The laws of comparison.** Of two values neither of which is `null`, exactly one of less, equal
and greater is true, and none of them fails. Less turned around is greater, for errors too; equality
is reflexive and symmetric, and unequal is its negation. `null` has no order, and is equal to
itself only; that is the one reason for there being no order, as no two values are incomparable.
Numbers, and texts that write one, are in the order of their values, and any other pair in that of
the bytes of their texts. So among the values that are seen as numbers less is a strict weak order,
and so it is among those that are seen as texts only; its equivalence is equality. -/
theorem comparison_laws :
    (∀ l r : Value, l ≠ .null → r ≠ .null → ∃ less same greater : Bool,
      lessThan l r = .ok (.boolean less) ∧ equal l r = .ok (.boolean same) ∧
        greaterThan l r = .ok (.boolean greater) ∧
        less.toNat + same.toNat + greater.toNat = 1) ∧
    (∀ l r : Value, lessThan l r = greaterThan r l ∧ equal l r = equal r l ∧
      equal l l = .ok (.boolean true) ∧
      ∃ same, equal l r = .ok (.boolean same) ∧ notEqual l r = .ok (.boolean !same)) ∧
    (∀ l r : Value, l = .null ∨ r = .null →
      lessThan l r = .error .undefined ∧ greaterThan l r = .error .undefined ∧
        (equal l r = .ok (.boolean true) ↔ l = .null ∧ r = .null)) ∧
    (∀ l r : Value, orderOrReason l r = (order l r).mapError (fun _ => .undefined) ∧
      ∀ left right, orderOrReason l r ≠ .error (.incomparable left right)) ∧
    (∀ (l r : Value) (d e : Decimal), l.asNumber? = some d → r.asNumber? = some e →
      (Less l r ↔ d.value < e.value)) ∧
    (∀ (l r : Value) (s t : String), l.asNumber? = none ∨ r.asNumber? = none →
      l.asText? = some s → r.asText? = some t → (Less l r ↔ Text.bytes s < Text.bytes t)) ∧
    IsStrictWeakOrder Numeric (fun l r => Less l.val r.val) ∧
    IsStrictWeakOrder Textual (fun l r => Less l.val r.val) ∧
    ∀ l r : Value, l ≠ .null → r ≠ .null →
      (¬ Less l r ∧ ¬ Less r l ↔ equal l r = .ok (.boolean true)) := by
  refine ⟨?_, ?_, ?_, ?_, fun l r d e => less_iff_value_lt, fun l r s t => less_iff_bytes_lt,
    isStrictWeakOrder_numeric, isStrictWeakOrder_textual, fun l r => not_less_iff_equal⟩
  · intro l r hl hr
    obtain ⟨o, ho⟩ := exists_order hl hr
    refine ⟨_, _, _, lessThan_of_order ho, by rw [equal, same_of_order ho],
      greaterThan_of_order ho, ?_⟩
    cases o <;> rfl
  · intro l r
    refine ⟨(greaterThan_eq_lessThan r l).symm, ?_, ?_, same l r, rfl, rfl⟩
    · rw [equal, equal, same_comm]
    · rw [equal, same_self]
  · intro l r hnull
    have hswap : greaterThan l r = .error .undefined := by
      rw [greaterThan, order_of_null hnull]
      rfl
    refine ⟨by rw [lessThan, order_of_null hnull]; rfl, hswap, ?_⟩
    rw [← same_null_iff hnull, equal]
    simp
  · intro l r
    refine ⟨orderOrReason_eq l r, fun left right hreason => ?_⟩
    rw [orderOrReason_eq] at hreason
    cases horder : order l r with
    | ok o => exact absurd (horder ▸ hreason) (by simp [Except.mapError])
    | error cause => exact absurd (horder ▸ hreason) (by simp [Except.mapError])

/-- A number, a padded text that writes an equal one, and a list that is seen as a text only: the
first two are equal and neither is less, the list is greater than either, and `null` fails. -/
theorem comparison_laws_of_kinds :
    let price : Value := .number ⟨false, 2500, 2, by decide, by decide⟩
    let padded : Value := .text " 25 "
    let items : Value := .list ["25", "a"]
    equal price padded = .ok (.boolean true) ∧
      Less price items ∧ lessThan padded items = greaterThan items padded ∧
      lessThan price .null = .error .undefined ∧
      (items ≠ .null ∧ items.asNumber? = none) := by
  obtain ⟨-, hturn, hnull, -, -, htexts, -, -, hequal⟩ := comparison_laws
  refine ⟨(hequal _ _ (by simp) (by simp)).mp (by decide +kernel), ?_, (hturn _ _).1,
    (hnull _ _ (.inr rfl)).1, by simp, by decide +kernel⟩
  exact (htexts _ _ "25" "25,a" (.inr (by decide +kernel)) (by decide +kernel)
    (by decide +kernel)).mpr (by decide +kernel)

/-- Between values that are seen as numbers and others, less goes in circles: 9 is less than 10,
that less than the text `1a`, and that less than 9. -/
example :
    let nine : Value := .number ⟨false, 9, 0, by decide, by decide⟩
    let ten : Value := .number ⟨false, 10, 0, by decide, by decide⟩
    Less nine ten ∧ Less ten (.text "1a") ∧ Less (.text "1a") nine := by
  decide +kernel

end Operator

end RuleLang
