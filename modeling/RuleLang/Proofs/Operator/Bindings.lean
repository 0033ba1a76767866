import Mathlib.Data.List.Induction
import RuleLang.Operator.Table

/-!
# What a rule is bound to

The operators that parts refer to, as the table has them at the moment: **a key is bound to an
operator exactly if some part names it, in whatever casing, and the table has that operator under
it** (`get?_bindings_iff`).
-/

set_option autoImplicit false

namespace RuleLang.OperatorTable

variable {t : OperatorTable}

theorem contains_eq_isSome (symbol : String) : t.contains symbol = (t.get? symbol).isSome := by
  rw [contains, get?, SortedMap.contains, Option.isSome_map]

/-- The casing of a symbol does not matter. -/
theorem get?_congr {symbol other : String} (h : key symbol = key other) :
    t.get? symbol = t.get? other := by
  rw [get?, get?, h]

def bindPart (t : OperatorTable) (set : OperatorSet) (part : Part) : OperatorSet :=
  match part with
  | .operator symbol =>
    match t.get? symbol with
    | some op => set.insert (key symbol) op
    | none => set
  | _ => set

theorem bindings_concat (parts : List Part) (part : Part) :
    t.bindings (parts ++ [part]) = t.bindPart (t.bindings parts) part := by
  unfold bindings
  rw [List.foldl_append]
  rfl

theorem get?_bindPart {symbol : String} {op : Operator} (h : t.get? symbol = some op)
    (set : OperatorSet) (k : String) :
    (t.bindPart set (.operator symbol)).get? k =
      if k = key symbol then some op else set.get? k := by
  rw [bindPart, h]
  simp only [SortedMap.get?_insert, Std.LawfulEqCmp.compare_eq_iff_eq]

/-- Only an operator that the table has changes what is bound. -/
theorem bindPart_eq_self {part : Part}
    (h : ∀ symbol op, part = .operator symbol → t.get? symbol ≠ some op) (set : OperatorSet) :
    t.bindPart set part = set := by
  unfold bindPart
  split
  · next symbol =>
    split
    · next op hop => exact absurd hop (h symbol op rfl)
    · rfl
  · rfl

theorem get?_bindings_iff {parts : List Part} {k : String} {op : Operator} :
    (t.bindings parts).get? k = some op ↔
      ∃ symbol, Part.operator symbol ∈ parts ∧ key symbol = k ∧ t.get? symbol = some op := by
  induction parts using List.reverseRecOn with
  | nil => simp [bindings]
  | append_singleton parts part ih =>
    rw [bindings_concat]
    by_cases hpart : ∃ symbol op', part = .operator symbol ∧ t.get? symbol = some op'
    · obtain ⟨symbol, op', rfl, hop⟩ := hpart
      rw [get?_bindPart hop]
      split
      · next hk =>
        -- A key that is bound again is bound to the same operator: the table has only one.
        subst hk
        constructor
        · intro h
          exact ⟨symbol, by simp, rfl, hop.trans h⟩
        · rintro ⟨other, _, hkey, hother⟩
          rw [← hop, ← hother, get?_congr hkey]
      · next hne =>
        rw [ih]
        constructor
        · rintro ⟨other, hmem, hother⟩
          exact ⟨other, List.mem_append_left _ hmem, hother⟩
        · rintro ⟨other, hmem, hkey, hother⟩
          rcases List.mem_append.mp hmem with hmem | hmem
          · exact ⟨other, hmem, hkey, hother⟩
          · obtain rfl : other = symbol := by simpa using hmem
            exact absurd hkey.symm hne
    · have hsame := bindPart_eq_self (fun symbol op' h hop => hpart ⟨symbol, op', h, hop⟩)
        (t.bindings parts)
      rw [hsame, ih]
      constructor
      · rintro ⟨other, hmem, hother⟩
        exact ⟨other, List.mem_append_left _ hmem, hother⟩
      · rintro ⟨other, hmem, hkey, hother⟩
        rcases List.mem_append.mp hmem with hmem | hmem
        · exact ⟨other, hmem, hkey, hother⟩
        · exact absurd ⟨other, op, (List.mem_singleton.mp hmem).symm, hother⟩ hpart

/-- What the parts name is bound to what the table has for it. -/
theorem get?_bindings_of_mem {parts : List Part} {symbol : String}
    (h : Part.operator symbol ∈ parts) :
    (t.bindings parts).get? (key symbol) = t.get? symbol := by
  ext op
  rw [get?_bindings_iff]
  constructor
  · rintro ⟨other, _, hkey, hother⟩
    rwa [← get?_congr hkey]
  · intro hop
    exact ⟨symbol, h, rfl, hop⟩

/-- Tables that have the same operators for some parts bind them alike. -/
theorem bindings_congr {t' : OperatorTable} {parts : List Part}
    (h : ∀ symbol, .operator symbol ∈ parts → t.get? symbol = t'.get? symbol) :
    t.bindings parts = t'.bindings parts := by
  refine SortedMap.ext_get? fun k => ?_
  ext op
  rw [get?_bindings_iff, get?_bindings_iff]
  constructor
  · intro hbound
    obtain ⟨symbol, hmem, hkey, hop⟩ := hbound
    exact ⟨symbol, hmem, hkey, (h symbol hmem).symm.trans hop⟩
  · intro hbound
    obtain ⟨symbol, hmem, hkey, hop⟩ := hbound
    exact ⟨symbol, hmem, hkey, (h symbol hmem).trans hop⟩

end RuleLang.OperatorTable
