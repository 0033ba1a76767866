import RuleLang.Proofs.Operator.Bindings
import RuleLang.Proofs.Operator.Entries

/-!
# Changes of a table are changes of its entries

Adding, removing and renaming read the entries of a table and nothing else; what they give has no
matcher. A renaming finds its operator and sees to the new symbol before it gives up the old one,
so **what a renaming leaves is one entry taken out, if the symbol is not to be kept, and one put
in** (`rename_eq_ok_iff`).
-/

set_option autoImplicit false

namespace RuleLang.OperatorTable

variable {t t' : OperatorTable} {symbol newSymbol : String} {keep : Bool}

theorem get?_eq_of_entries (h : t.entries = t'.entries) (symbol : String) :
    t.get? symbol = t'.get? symbol := by
  rw [get?, get?, h]

theorem insert_eq_of_entries (h : t.entries = t'.entries) (symbol : String) (op : Operator) :
    t.insert symbol op = t'.insert symbol op := by
  rw [OperatorTable.insert, OperatorTable.insert, h]

/-- Where a symbol is not in the table, taking its key out of the entries changes nothing. -/
theorem erase_entries (t : OperatorTable) (symbol : String) :
    (t.erase symbol).entries = t.entries.erase (key symbol) := by
  unfold OperatorTable.erase
  split
  · rfl
  · next hmissing =>
    rw [contains, SortedMap.contains, Bool.not_eq_true, Option.isSome_eq_false_iff,
      Option.isNone_iff_eq_none] at hmissing
    exact (SortedMap.erase_eq_self hmissing).symm

theorem get?_insert {op : Operator} (h : t.insert symbol op = .ok t') (other : String) :
    t'.get? other = if key other = key symbol then some op else t.get? other := by
  obtain ⟨-, rfl⟩ := insert_eq_ok_iff.mp h
  simp only [get?, SortedMap.get?_insert, Std.LawfulEqCmp.compare_eq_iff_eq]
  split <;> rfl

theorem get?_erase (t : OperatorTable) (symbol other : String) :
    (t.erase symbol).get? other = if key other = key symbol then none else t.get? other := by
  simp only [get?, erase_entries, SortedMap.get?_erase, Std.LawfulEqCmp.compare_eq_iff_eq]
  split <;> rfl

/-! ## Renaming -/

/-- The entries that a renaming puts the operator into. -/
def entriesLeft (t : OperatorTable) (symbol : String) (keep : Bool) :
    SortedMap String TableEntry :=
  if keep then t.entries else t.entries.erase (key symbol)

theorem rename_eq (t : OperatorTable) (symbol newSymbol : String) (keep : Bool) :
    t.rename symbol newSymbol keep =
      match t.get? symbol with
      | none => .error (.operatorNotFound symbol)
      | some op => insert ⟨t.entriesLeft symbol keep, none⟩ newSymbol op := by
  unfold rename
  cases hget : t.get? symbol with
  | none => rfl
  | some op =>
    refine insert_eq_of_entries ?_ newSymbol op
    cases keep with
    | true => rfl
    | false => exact t.erase_entries symbol

theorem rename_eq_of_entries (h : t.entries = t'.entries) (symbol newSymbol : String)
    (keep : Bool) : t.rename symbol newSymbol keep = t'.rename symbol newSymbol keep := by
  rw [rename_eq, rename_eq, get?_eq_of_entries h, entriesLeft, entriesLeft, h]

/-- **What a renaming leaves.** -/
theorem rename_eq_ok_iff :
    t.rename symbol newSymbol keep = .ok t' ↔
      ∃ op, t.get? symbol = some op ∧ newSymbol ≠ "" ∧
        t' = ⟨(t.entriesLeft symbol keep).insert (key newSymbol) ⟨newSymbol, op⟩, none⟩ := by
  rw [rename_eq]
  cases t.get? symbol with
  | none => simp
  | some op => simp [insert_eq_ok_iff]

/-- The entries after a renaming: one under the new symbol, and the others as they were, less the
one that was given up. -/
theorem entries_rename {op : Operator} (h : t.rename symbol newSymbol keep = .ok t')
    (hget : t.get? symbol = some op) (k : String) :
    t'.entries.get? k =
      if k = key newSymbol then some ⟨newSymbol, op⟩
      else if keep = false ∧ k = key symbol then none
      else t.entries.get? k := by
  obtain ⟨op', hget', -, rfl⟩ := rename_eq_ok_iff.mp h
  obtain rfl : op = op' := Option.some.inj (hget.symm.trans hget')
  cases keep with
  | true => simp [entriesLeft, SortedMap.get?_insert]
  | false => simp [entriesLeft, SortedMap.get?_insert, SortedMap.get?_erase]

theorem get?_rename {op : Operator} (h : t.rename symbol newSymbol keep = .ok t')
    (hget : t.get? symbol = some op) (other : String) :
    t'.get? other =
      if key other = key newSymbol then some op
      else if keep = false ∧ key other = key symbol then none
      else t.get? other := by
  rw [get?, entries_rename h hget]
  split
  · rfl
  · split <;> rfl

end RuleLang.OperatorTable
