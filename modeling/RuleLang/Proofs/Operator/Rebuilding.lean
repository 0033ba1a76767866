import RuleLang.Proofs.Operator.Entries
import RuleLang.Proofs.Operator.Signature

/-!
# A table is its entries

What was asked of a table leaves its entries and, as a cache, its matcher. The matcher adds nothing
to the entries: **two tables of the same entries are the same once their matchers are at hand**
(`prepare_eq_of_entries`), and cut every rule in the same way. In particular a table can be made
again by adding its entries to an empty one, and **in whatever order they are added, the same table
comes out** (`segment_ofEntries`).
-/

set_option autoImplicit false

namespace RuleLang.OperatorTable

variable {t t' : OperatorTable}

section Builder

variable [MatcherBuilder]

/-! ## Runs of a table -/

/-- What may be asked of a table. The last two only have its matcher built, if it can be. -/
inductive Operation where
  | insert (symbol : String) (op : Operator)
  | erase (symbol : String)
  | clear
  | rename (symbol newSymbol : String) (keep : Bool)
  | matcher
  | segment (rule : String)

/-- The table after a change, or the table there was if the change failed. -/
def orUnchanged (t : OperatorTable) : Except RuleError OperatorTable → OperatorTable
  | .ok t' => t'
  | .error _ => t

/-- The table after an operation. -/
def perform (t : OperatorTable) : Operation → OperatorTable
  | .insert symbol op => t.orUnchanged (t.insert symbol op)
  | .erase symbol => t.erase symbol
  | .clear => t.clear
  | .rename symbol newSymbol keep => t.orUnchanged (t.rename symbol newSymbol keep)
  | .matcher | .segment _ => t.orUnchanged t.prepare

/-- The table after some operations, done one after the other. -/
def run (t : OperatorTable) (ops : List Operation) : OperatorTable := ops.foldl perform t

theorem reachable_orUnchanged (h : t.Reachable) {changed : Except RuleError OperatorTable}
    (hchanged : ∀ t', changed = .ok t' → Step t t') : (t.orUnchanged changed).Reachable := by
  cases changed with
  | ok t' => exact .step h (hchanged t' rfl)
  | error e => exact h

theorem reachable_perform (h : t.Reachable) (op : Operation) : (t.perform op).Reachable := by
  cases op with
  | insert symbol op => exact reachable_orUnchanged h fun _ hinsert => .insert symbol op hinsert
  | erase symbol => exact .step h (.erase t symbol)
  | clear => exact .step h (.clear t)
  | rename symbol newSymbol keep =>
    exact reachable_orUnchanged h fun _ hrename => .rename symbol newSymbol keep hrename
  | matcher => exact reachable_orUnchanged h fun _ => .prepare
  | segment rule => exact reachable_orUnchanged h fun _ => .prepare

theorem reachable_run (ops : List Operation) : ∀ {t : OperatorTable}, t.Reachable →
    (t.run ops).Reachable := by
  induction ops with
  | nil => exact fun h => h
  | cons op ops ih => exact fun h => ih (reachable_perform h op)

/-! ## The entries are all there is -/

theorem currentMatcher_eq_of_entries (h : t.UpToDate) (h' : t'.UpToDate)
    (hentries : t.entries = t'.entries) : t.currentMatcher = t'.currentMatcher := by
  rw [currentMatcher_of_upToDate h, currentMatcher_of_upToDate h', symbols, symbols, hentries]

theorem refusal?_eq_of_entries (h : t.UpToDate) (h' : t'.UpToDate)
    (hentries : t.entries = t'.entries) : t.refusal? = t'.refusal? := by
  rw [refusal?_of_upToDate h, refusal?_of_upToDate h', symbols, symbols, hentries]

/-- **Tables of the same entries differ in what is at hand of the matcher, and in nothing else**:
once it is at hand they are the same, unless it can be built for neither. -/
theorem prepare_eq_of_entries (h : t.UpToDate) (h' : t'.UpToDate)
    (hentries : t.entries = t'.entries) : t.prepare = t'.prepare := by
  have hprepared : t.prepared = t'.prepared := by
    rw [prepared, prepared, currentMatcher_eq_of_entries h h' hentries, hentries]
  rw [prepare, prepare, refusal?_eq_of_entries h h' hentries, hprepared]

theorem segment_eq_of_entries (h : t.UpToDate) (h' : t'.UpToDate)
    (hentries : t.entries = t'.entries) (rule : String) : t.segment rule = t'.segment rule := by
  refine segment_congr (currentMatcher_eq_of_entries h h' hentries) (fun symbol => ?_) rule
  rw [contains, contains, hentries]

end Builder

/-! ## Making a table again -/

def addEntry (t : OperatorTable) (entry : TableEntry) : Except RuleError OperatorTable :=
  t.insert entry.symbol entry.operator

/-- The table that some entries make, added to an empty one in the order of the list. -/
def ofEntries (order : List TableEntry) : Except RuleError OperatorTable :=
  order.foldlM addEntry empty

/-- An entry under the key that it is kept under. -/
def keyed (entry : TableEntry) : String × TableEntry := (key entry.symbol, entry)

theorem foldlM_addEntry (order : List TableEntry) : ∀ (entries : SortedMap String TableEntry),
    (∀ entry ∈ order, entry.symbol ≠ "") →
      order.foldlM addEntry ⟨entries, none⟩ =
        .ok ⟨(order.map keyed).foldl (fun m e => m.insert e.1 e.2) entries, none⟩ := by
  induction order with
  | nil => exact fun _ _ => rfl
  | cons entry order ih =>
    intro entries hsymbols
    have hadd : addEntry ⟨entries, none⟩ entry =
        .ok ⟨entries.insert (key entry.symbol) entry, none⟩ :=
      insert_eq_ok_iff.mpr ⟨hsymbols entry List.mem_cons_self, rfl⟩
    rw [List.foldlM_cons, hadd]
    exact ih _ fun entry hmem => hsymbols entry (List.mem_cons_of_mem _ hmem)

theorem map_keyed_values (h : t.Orderly) : t.entries.values.map keyed = t.entries.entries := by
  have hkeyed : ∀ e ∈ t.entries.entries, keyed e.2 = e := by
    rintro ⟨k, entry⟩ hmem
    rw [keyed, ← h.key_eq (SortedMap.mem_entries_iff.mp hmem)]
  calc t.entries.values.map keyed
      = t.entries.entries.map fun e => keyed e.2 := by
        rw [SortedMap.values, List.map_map]
        rfl
    _ = t.entries.entries.map id := List.map_congr_left hkeyed
    _ = t.entries.entries := List.map_id _

/-- The entries of a table make the same entries again, in any order. -/
theorem ofEntries_eq (h : t.Orderly) {order : List TableEntry}
    (horder : order.Perm t.entries.values) : ofEntries order = .ok ⟨t.entries, none⟩ := by
  have hsymbols : ∀ entry ∈ order, entry.symbol ≠ "" := by
    intro entry hmem
    obtain ⟨k, hget⟩ := SortedMap.mem_values_iff.mp (horder.mem_iff.mp hmem)
    exact h.nonempty hget
  have hperm := horder.map keyed
  rw [map_keyed_values h] at hperm
  have hentries := SortedMap.ofList_of_perm hperm
  rw [SortedMap.ofList] at hentries
  rw [ofEntries, empty, foldlM_addEntry order _ hsymbols, hentries]

/-- **In whatever order the entries of a table are added to an empty one, the table that comes out
cuts every rule as the old one does**, whatever was asked of that one before, and is refused a
matcher only if the old one is. -/
theorem segment_ofEntries [MatcherBuilder] (h : t.Reachable) {order : List TableEntry}
    (horder : order.Perm t.entries.values) :
    ∃ fresh, ofEntries order = .ok fresh ∧ fresh.entries = t.entries ∧ fresh.matcher = none ∧
      t.refusal? = fresh.refusal? ∧ ∀ rule, t.segment rule = fresh.segment rule := by
  have hfresh := ofEntries_eq (orderly_of_reachable h) horder
  have hold := upToDate_of_reachable h
  have hnew : UpToDate ⟨t.entries, none⟩ := upToDate_of_matcher_eq_none rfl
  exact ⟨_, hfresh, rfl, rfl, refusal?_eq_of_entries hold hnew rfl,
    segment_eq_of_entries hold hnew rfl⟩

end RuleLang.OperatorTable
