import RuleLang.Proofs.Alike
import RuleLang.Proofs.Decimal.Arithmetic
import RuleLang.Proofs.Operator.Comparison

/-!
# Operators look at views

Arithmetic, comparison and containment do not look at the kind of a value but at its views, and at
numbers by their value. So **values with the same views are interchangeable as operands of them**
(`apply_congr`), whatever kinds they are of. Of the built-in operators this leaves out the two
connectives, which ask whether a value counts as true, and a number may do so where its text does
not.
-/

set_option autoImplicit false

namespace RuleLang

/-- Values with the same views: numbers of one value, or no numbers; one text; one description where
an error may give it; and lists of the same items, or no lists. -/
structure Value.SameViews (v v' : Value) : Prop where
  number : Option.Rel (fun d d' => Decimal.value d = d'.value) v.asNumber? v'.asNumber?
  text : v.asText? = v'.asText?
  description : v.asNumber? = none → v.describe = v'.describe
  list : ∀ items, v = .list items ↔ v' = .list items

theorem Value.SameViews.refl (v : Value) : v.SameViews v where
  number := by
    cases v.asNumber? with
    | none => exact .none
    | some d => exact .some rfl
  text := rfl
  description _ := rfl
  list _ := Iff.rfl

theorem Value.asText?_eq_none_iff {v : Value} : v.asText? = none ↔ v = .null := by
  cases v <;> simp [asText?]

theorem Value.SameViews.null {v v' : Value} (h : v.SameViews v') : v = .null ↔ v' = .null := by
  rw [← asText?_eq_none_iff, ← asText?_eq_none_iff, h.text]

theorem Value.SameViews.exists_number {v v' : Value} (h : v.SameViews v') {d : Decimal}
    (hd : v.asNumber? = some d) : ∃ d', v'.asNumber? = some d' ∧ d.value = d'.value := by
  have hnumber := h.number
  rw [hd] at hnumber
  generalize v'.asNumber? = view at hnumber ⊢
  cases hnumber with
  | some hvalue => exact ⟨_, rfl, hvalue⟩

theorem Value.SameViews.number_eq_none {v v' : Value} (h : v.SameViews v')
    (hnone : v.asNumber? = none) : v'.asNumber? = none := by
  have hnumber := h.number
  rw [hnone] at hnumber
  generalize v'.asNumber? = view at hnumber ⊢
  cases hnumber with
  | none => rfl

namespace Operator

variable {l l' r r' : Value}

/-! ## Arithmetic -/

theorem number_congr (h : l.SameViews l') :
    Outcome Eq (fun d d' => Decimal.value d = d'.value) (number l) (number l') := by
  have hnumber := h.number
  have hdescription := h.description
  unfold number
  generalize l.asNumber? = view at hnumber hdescription ⊢
  generalize l'.asNumber? = view' at hnumber ⊢
  cases hnumber with
  | none => exact .error (congrArg OperatorError.notANumber (hdescription rfl))
  | some hvalue => exact .ok hvalue

/-- An operation that goes by value has one result for operands with the same views. -/
theorem arithmetic_congr {operation : Decimal → Decimal → Except OperatorError Value}
    (h : ∀ {a a' b b' : Decimal}, a.value = a'.value → b.value = b'.value →
      operation a b = operation a' b') (hl : l.SameViews l') (hr : r.SameViews r') :
    arithmetic operation l r = arithmetic operation l' r' := by
  have hresult : Outcome Eq Eq (arithmetic operation l r) (arithmetic operation l' r') :=
    (number_congr hl).bind fun ha => (number_congr hr).bind fun hb => by
      rw [h ha hb]
      exact .refl _
  exact hresult.eq

theorem add_congr {a a' b b' : Decimal} (ha : a.value = a'.value) (hb : b.value = b'.value) :
    orOverflow (a.add? b) = orOverflow (a'.add? b') := by
  rw [Decimal.add?_eq, Decimal.add?_eq, ha, hb]

theorem subtract_congr {a a' b b' : Decimal} (ha : a.value = a'.value) (hb : b.value = b'.value) :
    orOverflow (a.sub? b) = orOverflow (a'.sub? b') := by
  rw [Decimal.sub?_eq, Decimal.sub?_eq, ha, hb]

theorem multiply_congr {a a' b b' : Decimal} (ha : a.value = a'.value) (hb : b.value = b'.value) :
    orOverflow (a.mul? b) = orOverflow (a'.mul? b') := by
  rw [Decimal.mul?_eq, Decimal.mul?_eq, ha, hb]

theorem divide_congr {a a' b b' : Decimal} (ha : a.value = a'.value) (hb : b.value = b'.value) :
    (if b.isZero then .error .divisionByZero else orOverflow (a.div? b)) =
      if b'.isZero then .error .divisionByZero else orOverflow (a'.div? b') := by
  have hzero := Decimal.isZero_congr hb
  cases hb' : b'.isZero with
  | true => rw [hzero, hb', if_pos rfl, if_pos rfl]
  | false =>
    rw [hzero, hb', Decimal.div?_eq a b (hzero.trans hb'), Decimal.div?_eq a' b' hb', ha, hb]

/-! ## Comparison -/

section

variable (hl : l.SameViews l') (hr : r.SameViews r')
include hl hr

theorem order_congr : order l r = order l' r' := by
  rcases order_cases l r with ⟨d, e, hd, he, h⟩ | ⟨s, t, hnone, hs, ht, h⟩ | ⟨hnull, h⟩
  · obtain ⟨d', hd', hvalue⟩ := hl.exists_number hd
    obtain ⟨e', he', hvalue'⟩ := hr.exists_number he
    rw [h, order_of_numbers hd' he', Decimal.compare_eq, Decimal.compare_eq, hvalue, hvalue']
  · have hnone' := hnone.imp hl.number_eq_none hr.number_eq_none
    rw [h, order_of_texts hnone' (hl.text.symm.trans hs) (hr.text.symm.trans ht)]
  · rw [h, order_of_null (hnull.imp hl.null.mp hr.null.mp)]

theorem same_congr : same l r = same l' r' := by
  by_cases hnull : l = .null ∨ r = .null
  · have hnull' : l' = .null ∨ r' = .null := hnull.imp hl.null.mp hr.null.mp
    rw [Bool.eq_iff_iff, same_null_iff hnull, same_null_iff hnull', hl.null, hr.null]
  · obtain ⟨hl', hr'⟩ := not_or.mp hnull
    obtain ⟨o, ho⟩ := exists_order hl' hr'
    rw [same_of_order ho, same_of_order ((order_congr hl hr).symm.trans ho)]

theorem equal_congr : equal l r = equal l' r' := by
  rw [equal, equal, same_congr hl hr]

theorem notEqual_congr : notEqual l r = notEqual l' r' := by
  rw [notEqual, notEqual, same_congr hl hr]

theorem greaterThan_congr : greaterThan l r = greaterThan l' r' := by
  rw [greaterThan, greaterThan, order_congr hl hr]

theorem lessThan_congr : lessThan l r = lessThan l' r' := by
  rw [lessThan, lessThan, order_congr hl hr]

end

/-! ## Containment -/

theorem contains_of_ne_list (h : ∀ items, l ≠ .list items) :
    contains l r = (text r).bind fun piece => (text l).bind fun whole =>
      .ok (.boolean (occursIn piece.toList whole.toList)) := by
  cases l with
  | list items => exact absurd rfl (h items)
  | number _ => rfl
  | text _ => rfl
  | boolean _ => rfl
  | null => rfl

theorem contains_congr (hl : l.SameViews l') (hr : r.SameViews r') :
    contains l r = contains l' r' := by
  have hpiece : text r = text r' := by rw [text, text, hr.text]
  have hwhole : text l = text l' := by rw [text, text, hl.text]
  by_cases hlist : ∃ items, l = .list items
  · obtain ⟨items, hitems⟩ := hlist
    rw [hitems, (hl.list items).mp hitems, contains, contains, hpiece]
  · have hne : ∀ items, l ≠ .list items := not_exists.mp hlist
    have hne' : ∀ items, l' ≠ .list items := fun items heq => hne items ((hl.list items).mpr heq)
    rw [contains_of_ne_list hne, contains_of_ne_list hne', hpiece, hwhole]

/-! ## All of them -/

/-- The symbols of the built-in operators that ask what counts as true. -/
def connectives : List String := [" and ", " or "]

/-- **Values with the same views are interchangeable** as operands of arithmetic, comparison and
containment. -/
theorem apply_congr {e : String × Operator} (he : e ∈ builtins) (hsymbol : e.1 ∉ connectives)
    (hl : l.SameViews l') (hr : r.SameViews r') : e.2.apply l r = e.2.apply l' r' := by
  simp only [builtins, List.mem_cons, List.not_mem_nil, or_false] at he
  rcases he with rfl | rfl | rfl | rfl | rfl | rfl | rfl | rfl | rfl | rfl | rfl
  · exact arithmetic_congr multiply_congr hl hr
  · exact arithmetic_congr divide_congr hl hr
  · exact arithmetic_congr add_congr hl hr
  · exact arithmetic_congr subtract_congr hl hr
  · exact equal_congr hl hr
  · exact notEqual_congr hl hr
  · exact greaterThan_congr hl hr
  · exact lessThan_congr hl hr
  · exact contains_congr hl hr
  · exact absurd (by decide) hsymbol
  · exact absurd (by decide) hsymbol

theorem apply_of_mem_connectives {e : String × Operator} (he : e ∈ builtins)
    (hsymbol : e.1 ∈ connectives) : e.2.apply = both ∨ e.2.apply = either := by
  simp only [builtins, List.mem_cons, List.not_mem_nil, or_false] at he
  rcases he with rfl | rfl | rfl | rfl | rfl | rfl | rfl | rfl | rfl | rfl | rfl
  case inr.inr.inr.inr.inr.inr.inr.inr.inr.inl => exact .inl rfl
  case inr.inr.inr.inr.inr.inr.inr.inr.inr.inr => exact .inr rfl
  all_goals exact absurd hsymbol (by decide)

end Operator

end RuleLang
