import RuleLang.Proofs.Operator.Matcher
import RuleLang.Proofs.Operator.Reachable

/-!
# The entries of a table

An operator is kept under the lower-case form of its symbol, and its symbol is not empty
(`Orderly`): no operation on a table can do otherwise (`orderly_of_reachable`). So **the symbols of
a table are exactly the spellings it knows under their own keys** (`mem_symbols_iff`), and what its
matcher finds is the fold of a symbol or a parenthesis (`mem_currentMatcher_iff`); tables whose
symbols have the same folds find the same (`recogniser_congr`).
-/

set_option autoImplicit false

namespace RuleLang.OperatorTable

/-- Every entry is kept under the key of its symbol, and no symbol is empty. -/
structure Orderly (t : OperatorTable) : Prop where
  key_eq : ∀ {k entry}, t.entries.get? k = some entry → k = key entry.symbol
  nonempty : ∀ {k entry}, t.entries.get? k = some entry → entry.symbol ≠ ""

variable {t t' : OperatorTable}

theorem orderly_of_entries (h : t.Orderly)
    (hentries : ∀ {k entry}, t'.entries.get? k = some entry → t.entries.get? k = some entry) :
    t'.Orderly where
  key_eq hget := h.key_eq (hentries hget)
  nonempty hget := h.nonempty (hentries hget)

theorem orderly_empty : empty.Orderly where
  key_eq hget := absurd hget (by simp [empty])
  nonempty hget := absurd hget (by simp [empty])

/-! ## Every operation keeps the entries in order -/

theorem insert_eq_ok_iff {symbol : String} {op : Operator} :
    t.insert symbol op = .ok t' ↔
      symbol ≠ "" ∧ t' = ⟨t.entries.insert (key symbol) ⟨symbol, op⟩, none⟩ := by
  unfold OperatorTable.insert
  by_cases hempty : symbol = ""
  · simp [hempty]
  · rw [if_neg (by simpa using hempty)]
    simp [hempty, eq_comm]

theorem orderly_insert {symbol : String} {op : Operator} (h : t.Orderly)
    (hinsert : t.insert symbol op = .ok t') : t'.Orderly := by
  obtain ⟨hsymbol, rfl⟩ := insert_eq_ok_iff.mp hinsert
  -- An entry is the new one under its own key, or one that was there.
  have hcases {k : String} {entry : TableEntry}
      (hget : (t.entries.insert (key symbol) ⟨symbol, op⟩).get? k = some entry) :
      (k = key symbol ∧ entry = ⟨symbol, op⟩) ∨ t.entries.get? k = some entry := by
    rw [SortedMap.get?_insert] at hget
    split at hget
    · next hk => exact .inl ⟨Std.LawfulEqCmp.eq_of_compare hk, (Option.some.inj hget).symm⟩
    · exact .inr hget
  constructor
  · intro k entry hget
    rcases hcases hget with ⟨rfl, rfl⟩ | hold
    · rfl
    · exact h.key_eq hold
  · intro k entry hget
    rcases hcases hget with ⟨_, rfl⟩ | hold
    · exact hsymbol
    · exact h.nonempty hold

theorem orderly_erase (h : t.Orderly) (symbol : String) : (t.erase symbol).Orderly := by
  unfold OperatorTable.erase
  split
  · refine orderly_of_entries h fun {k entry} hget => ?_
    rw [SortedMap.get?_erase] at hget
    split at hget
    · exact absurd hget (by simp)
    · exact hget
  · exact h

theorem orderly_step [MatcherBuilder] (h : t.Orderly) (hstep : Step t t') : t'.Orderly := by
  cases hstep with
  | insert symbol op hinsert => exact orderly_insert h hinsert
  | erase symbol => exact orderly_erase h symbol
  | clear => exact orderly_empty
  | rename symbol newSymbol keep hrename =>
    unfold OperatorTable.rename at hrename
    split at hrename
    · exact absurd hrename (by simp)
    · cases keep with
      | true => exact orderly_insert h hrename
      | false => exact orderly_insert (orderly_erase h symbol) hrename
  | prepare hprepare =>
    obtain ⟨-, rfl⟩ := prepare_eq_ok_iff.mp hprepare
    exact orderly_of_entries h fun hget => hget

/-- The entry of a built-in operator, under its key. -/
def builtinEntry (e : String × Operator) : String × TableEntry := (key e.1, ⟨e.1, e.2⟩)

theorem builtin_entries : builtin.entries = .ofList (Operator.builtins.map builtinEntry) := rfl

/-- Nothing but the built-in operators is in the built-in table. -/
theorem exists_builtin_of_get? {k : String} {entry : TableEntry}
    (h : builtin.entries.get? k = some entry) :
    ∃ e ∈ Operator.builtins, k = key e.1 ∧ entry = ⟨e.1, e.2⟩ := by
  have hkeys : ((Operator.builtins.map builtinEntry).map Prod.fst).Nodup := by decide +kernel
  rw [builtin_entries, SortedMap.get?_ofList_iff hkeys] at h
  obtain ⟨e, he, heq⟩ := List.mem_map.mp h
  obtain ⟨hk, hentry⟩ := Prod.mk.inj heq
  exact ⟨e, he, hk.symm, hentry.symm⟩

theorem orderly_builtin : builtin.Orderly := by
  have hnonempty : ∀ e ∈ Operator.builtins, e.1 ≠ "" := by decide +kernel
  constructor
  · intro k entry hget
    obtain ⟨e, _, rfl, rfl⟩ := exists_builtin_of_get? hget
    rfl
  · intro k entry hget
    obtain ⟨e, he, _, rfl⟩ := exists_builtin_of_get? hget
    exact hnonempty e he

/-- **The entries of a table are in order.** -/
theorem orderly_of_reachable [MatcherBuilder] (h : t.Reachable) : t.Orderly := by
  induction h with
  | empty => exact orderly_empty
  | builtin => exact orderly_builtin
  | step _ hstep ih => exact orderly_step ih hstep

/-! ## Symbols -/

/-- **The symbols of a table** are the spellings that it keeps under their own keys. -/
theorem mem_symbols_iff (h : t.Orderly) {symbol : String} :
    symbol ∈ t.symbols ↔
      ∃ op, t.entries.get? (key symbol) = some ⟨symbol, op⟩ := by
  rw [symbols, List.mem_map]
  constructor
  · rintro ⟨entry, hmem, rfl⟩
    obtain ⟨k, hget⟩ := SortedMap.mem_values_iff.mp hmem
    obtain rfl := h.key_eq hget
    exact ⟨entry.operator, hget⟩
  · rintro ⟨op, hget⟩
    exact ⟨⟨symbol, op⟩, SortedMap.mem_values_iff.mpr ⟨_, hget⟩, rfl⟩

theorem contains_of_mem_symbols (h : t.Orderly) {symbol : String} (hmem : symbol ∈ t.symbols) :
    t.contains symbol = true := by
  obtain ⟨op, hget⟩ := (mem_symbols_iff h).mp hmem
  rw [contains, SortedMap.contains, hget]
  rfl

/-- The keys of a table are those of its symbols. -/
theorem mem_keys_iff (h : t.Orderly) {k : String} :
    k ∈ t.entries.keys ↔ ∃ symbol ∈ t.symbols, key symbol = k := by
  rw [SortedMap.mem_keys_iff]
  constructor
  · intro hk
    obtain ⟨entry, hget⟩ := Option.isSome_iff_exists.mp hk
    obtain rfl := h.key_eq hget
    exact ⟨entry.symbol, (mem_symbols_iff h).mpr ⟨entry.operator, hget⟩, rfl⟩
  · intro hsymbol
    obtain ⟨symbol, hmem, rfl⟩ := hsymbol
    exact contains_of_mem_symbols h hmem

theorem nonempty_of_mem_symbols (h : t.Orderly) {symbol : String} (hmem : symbol ∈ t.symbols) :
    symbol ≠ "" := by
  obtain ⟨op, hget⟩ := (mem_symbols_iff h).mp hmem
  exact h.nonempty hget

/-- What the matcher of a table looks for: the folds of the symbols, and the parentheses. -/
theorem mem_currentMatcher_iff [MatcherBuilder] (h : t.Reachable) {folded : List Char} :
    folded ∈ t.currentMatcher.symbols ↔
      (∃ symbol ∈ t.symbols, symbol.toList.map Text.fold = folded) ∨
        folded ∈ Matcher.parentheses := by
  rw [currentMatcher_of_reachable h, Matcher.mem_ofSymbols]
  refine or_congr_left ⟨?_, ?_⟩
  · rintro ⟨symbol, hmem, heq, _⟩
    exact ⟨symbol, hmem, heq⟩
  · rintro ⟨symbol, hmem, rfl⟩
    refine ⟨symbol, hmem, rfl, ?_⟩
    simpa using nonempty_of_mem_symbols (orderly_of_reachable h) hmem

/-! ## Two tables -/

/-- Two tables find the same in a text if the same of their symbols begin it. -/
theorem find?_congr [MatcherBuilder] (h : t.Reachable) (h' : t'.Reachable) {text : List Char}
    (hsymbols : ∀ found rest, text = found ++ rest →
      (found.map Text.fold ∈ t.currentMatcher.symbols ↔
        found.map Text.fold ∈ t'.currentMatcher.symbols)) :
    t.currentMatcher.recogniser.find? text = t'.currentMatcher.recogniser.find? text := by
  rw [currentMatcher_of_reachable h, currentMatcher_of_reachable h'] at hsymbols ⊢
  exact Matcher.find?_congr hsymbols

/-- **It does not matter in which order symbols are kept**, nor in which casing: what is found
depends on the folds that there are. -/
theorem recogniser_congr [MatcherBuilder] (h : t.Reachable) (h' : t'.Reachable)
    (hsymbols : ∀ folded,
      folded ∈ t.currentMatcher.symbols ↔ folded ∈ t'.currentMatcher.symbols) :
    t.currentMatcher.recogniser = t'.currentMatcher.recogniser :=
  Segment.Recogniser.ext_find? (funext fun _ => find?_congr h h' fun _ _ _ => hsymbols _)

end RuleLang.OperatorTable
