import RuleLang.Proofs.Operator.Views
import RuleLang.Proofs.Record.Reading

/-!
# A number and its text

The text of a number stands for its value and for nothing else. Main statement: **numbers have the
same text exactly if they have the same value, and the text is read as a number of that value**
(`text_stands_for_value`). So it does not matter to arithmetic, comparison and containment whether
an operand is a number or its text, and a list of numbers, which keeps their texts only, still tells
which values are in it.
-/

set_option autoImplicit false

namespace RuleLang

theorem Value.exists_number_valueText (a : Decimal) :
    ∃ d, (text a.valueText).asNumber? = some d ∧ d.value = a.value := by
  rw [asNumber?_text]
  exact Decimal.exists_ofText?_valueText a

/-- A number and its text have the same views. -/
theorem Value.sameViews_text (a : Decimal) : (number a).SameViews (text a.valueText) where
  number := by
    obtain ⟨d, hd, hvalue⟩ := exists_number_valueText a
    rw [hd]
    exact .some hvalue.symm
  text := rfl
  description h := absurd h (by simp [asNumber?])
  list items := by simp

/-- **The text of a number stands for its value.** Two numbers have the same text exactly if they
are equal, and the text is read as a number equal to the one it is of. So a list that was read from
JSON numbers has a number in it exactly if one of them was read as a number equal to it, whole
numbers being read as what they are; and a number and its text are interchangeable as operands of
all built-in operators but the two connectives. -/
theorem Decimal.text_stands_for_value :
    (∀ a b : Decimal, (Value.number a).asText? = (Value.number b).asText? ↔ a.value = b.value) ∧
    (∀ a : Decimal, ∃ s, (Value.number a).asText? = some s ∧
      (∃ d, (Value.text s).asNumber? = some d ∧ d.value = a.value) ∧
      ∀ e ∈ Operator.builtins, e.1 ∉ Operator.connectives → ∀ v,
        e.2.apply (.number a) v = e.2.apply (.text s) v ∧
          e.2.apply v (.number a) = e.2.apply v (.text s)) ∧
    (∀ (field : String) (numbers : List Json.Number) (list : Value) (a : Decimal),
      Record.readField field (.array (numbers.map .number)) = .ok list →
        ∃ found, Operator.contains list (.number a) = .ok (.boolean found) ∧
          (found = true ↔
            ∃ n ∈ numbers, ∃ d, Record.readNumber field n = .ok d ∧ d.value = a.value)) ∧
    ∀ (field : String) (n : Int), n.natAbs < Nat.pow 2 96 →
      ∃ d, Record.readNumber field (.integer n) = .ok d ∧ d.value = n := by
  refine ⟨?_, ?_, ?_, ?_⟩
  · intro a b
    rw [Value.asText?, Value.asText?, Option.some.injEq, valueText_eq_iff]
  · intro a
    refine ⟨a.valueText, rfl, Value.exists_number_valueText a, fun e he hsymbol v => ?_⟩
    have hviews := Value.sameViews_text a
    exact ⟨Operator.apply_congr he hsymbol hviews (.refl v),
      Operator.apply_congr he hsymbol (.refl v) hviews⟩
  · intro field numbers list a hread
    obtain ⟨items, rfl, hitems⟩ := Record.exists_items_of_readField hread
    refine ⟨items.contains a.valueText, rfl, ?_⟩
    rw [List.contains_iff_mem, hitems]
    simp only [valueText_eq_iff]
  · intro field n h
    exact ⟨_, Record.readNumber_integer h field, Record.value_wholeDecimal h⟩

/-- A price of two decimals against the whole number of its value: as texts, in a list that was
read with that whole number in it, and as operands. -/
theorem Decimal.text_stands_for_value_of_price :
    let price : Decimal := ⟨false, 2500, 2, by decide, by decide⟩
    let whole : Decimal := ⟨false, 25, 0, by decide, by decide⟩
    let numbers : List Json.Number := [.integer 7, .integer 25]
    (Value.number price).asText? = (Value.number whole).asText? ∧
      (∃ n ∈ numbers, ∃ d, Record.readNumber "prices" n = .ok d ∧ d.value = price.value) ∧
      ∃ s, (Value.number price).asText? = some s ∧
        ∀ v, Operator.lessThan (.number price) v = Operator.lessThan (.text s) v := by
  intro price whole numbers
  obtain ⟨htext, hview, hlist, -⟩ := Decimal.text_stands_for_value
  have hread : Record.readField "prices" (.array (numbers.map .number)) = .ok (.list ["7", "25"]) :=
    by decide +kernel
  obtain ⟨found, hcontains, hfound⟩ := hlist _ _ _ price hread
  obtain ⟨s, hs, -, hoperand⟩ := hview price
  have hin : Operator.contains (.list ["7", "25"]) (.number price) = .ok (.boolean true) := by
    decide +kernel
  refine ⟨(htext _ _).mpr (Decimal.value_eq_iff.mpr (by decide +kernel)), hfound.mp ?_, s, hs,
    fun v => ?_⟩
  · rw [hin] at hcontains
    exact (Value.boolean.inj (Except.ok.inj hcontains)).symm
  · have hmem : ("<", (⟨1, Operator.lessThan⟩ : Operator)) ∈ Operator.builtins := by
      simp [Operator.builtins]
    have hsymbol : "<" ∉ Operator.connectives := by decide
    simpa only using (hoperand _ hmem hsymbol v).1

end RuleLang
