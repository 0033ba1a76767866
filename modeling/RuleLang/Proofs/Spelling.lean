import RuleLang.Operator.MatcherSize
import RuleLang.Proofs.Alike
import RuleLang.Proofs.Operator.Changes
import RuleLang.Proofs.RuleBook.Compile

/-!
# Symbols are names

An operator may be given another symbol, or a second one, and every symbol may be written in any
casing. Main statement: **parts that spell their operators otherwise mean the same**
(`symbols_are_names`), whatever the parts are: they have no prefix form, for one reason, or prefix
forms that differ in the spelling, that are both accepted as rules or both not, and that have one
value or one error on every record.

Three things look a symbol up, each for itself: the conversion its priority, the binding its
operator, the evaluation what it is bound to. They all go by its key, so it is enough to know of two
spellings that they name one operator (`Names`). One thing goes by the spelling, the parentheses;
but a parenthesis has no other spelling (`parenOf?_congr`).

A rule is a text first, and the matcher has a notion of case of its own. So a symbol in another
casing is found in the same texts only where the matcher, too, takes the two for one
(`segment_of_recased`).
-/

set_option autoImplicit false

namespace RuleLang

open OperatorTable (key)

/-! ## Spellings -/

/-- A parenthesis has no other spelling. -/
theorem Part.parenOf?_congr {symbol symbol' : String} (h : key symbol = key symbol') :
    parenOf? symbol = parenOf? symbol' := by
  have hparen {paren : String} {c : Char} (hparen : paren = String.ofList [c])
      (hc : Text.caseless.has c = true) : symbol = paren ↔ symbol' = paren := by
    have hlower : Text.lower symbol = Text.lower symbol' := h
    rw [hparen, ← Text.lower_eq_singleton_iff hc (s := symbol), hlower,
      Text.lower_eq_singleton_iff hc]
  have hopening : symbol = "(" ↔ symbol' = "(" := hparen rfl (c := '(') (by decide +kernel)
  have hclosing : symbol = ")" ↔ symbol' = ")" := hparen rfl (c := ')') (by decide +kernel)
  simp only [parenOf?, hopening, hclosing]

/-- A part and itself, or an operator and itself in another spelling. -/
inductive Part.Respelled (alike : String → String → Prop) : Part → Part → Prop
  | operator {symbol symbol' : String} : alike symbol symbol' →
      Respelled alike (.operator symbol) (.operator symbol')
  | operand (part : Part) : part.isOperator = false → Respelled alike part part

/-- Rules that differ in spellings, and in nothing that they do. -/
structure Rule.Respelled (alike : String → String → Prop) (rule rule' : Rule) : Prop where
  parts : List.Forall₂ (Part.Respelled alike) rule.sequence rule'.sequence
  accepted : rule.isExpression = rule'.isExpression
  value : ∀ record, rule.evaluate record = rule'.evaluate record

/-- Whether two spellings lead to one operator, or to none and are the same: an operator that is
missing is called by its name. -/
def SameOperator (look look' : String → Option Operator) (symbol symbol' : String) : Prop :=
  look symbol = look' symbol' ∧ (symbol = symbol' ∨ (look symbol).isSome = true)

/-- What a symbol in any casing is bound to. -/
def boundTo (bound : OperatorSet) (symbol : String) : Option Operator := bound.get? (key symbol)

/-- Other operators in place of those that are bound tell two spellings apart no better. -/
theorem SameOperator.map {bound bound' : OperatorSet} {symbol symbol' : String}
    (h : SameOperator (boundTo bound) (boundTo bound') symbol symbol') (f : Operator → Operator) :
    SameOperator (boundTo (bound.map f)) (boundTo (bound'.map f)) symbol symbol' := by
  obtain ⟨hlook, hsymbol⟩ := h
  unfold SameOperator boundTo at *
  rw [SortedMap.get?_map, SortedMap.get?_map, Option.isSome_map, hlook]
  exact ⟨rfl, hlook ▸ hsymbol⟩

/-- Whether spellings that count as alike name one operator of two tables. -/
structure Names (table table' : OperatorTable) (alike : String → String → Prop) : Prop where
  paren : ∀ {symbol symbol'}, alike symbol symbol' →
    Part.parenOf? symbol = Part.parenOf? symbol'
  operator : ∀ {symbol symbol'}, alike symbol symbol' →
    SameOperator table.get? table'.get? symbol symbol'

variable {table table' : OperatorTable} {alike : String → String → Prop}
  {sequence sequence' : List Part}

/-! ## Evaluation -/

theorem Evaluate.applies_of_sameOperator {bound bound' : OperatorSet} {symbol symbol' : String}
    (h : SameOperator (boundTo bound) (boundTo bound') symbol symbol') :
    Applies Eq bound bound' symbol symbol' := by
  obtain ⟨hlook, hsymbol⟩ := h
  unfold boundTo at hlook hsymbol
  rintro left _ right _ rfl rfl
  unfold applySymbol
  rw [← hlook]
  cases hop : bound.get? (key symbol) with
  | some op => exact .refl _
  | none =>
    rw [hop] at hsymbol
    obtain rfl : symbol = symbol' := by simpa using hsymbol
    exact .refl _

/-- What is alike part by part is evaluated alike, if the operators are. -/
theorem evaluate_respelled {bound bound' : OperatorSet}
    (h : List.Forall₂ (Part.Respelled alike) sequence sequence')
    (hbound : ∀ symbol symbol', alike symbol symbol' → .operator symbol ∈ sequence →
      .operator symbol' ∈ sequence' → SameOperator (boundTo bound) (boundTo bound') symbol symbol')
    (record : Record) : evaluate bound record sequence = evaluate bound' record sequence' := by
  have hmem : List.Forall₂
      (fun part part' => part ∈ sequence ∧ part' ∈ sequence' ∧ Part.Respelled alike part part')
      sequence sequence' :=
    (List.forall₂_and_left _ _).mpr ⟨fun _ hpart => hpart,
      ((List.forall₂_and_left _ _).mpr ⟨fun _ hpart' => hpart', h.flip⟩).flip⟩
  refine (evaluate_related (V := Eq) (hmem.imp ?_)).eq
  rintro part part' ⟨hpart, hpart', halike⟩
  cases halike with
  | operator hsymbol =>
    exact .operator (Evaluate.applies_of_sameOperator (hbound _ _ hsymbol hpart hpart'))
  | operand part plain => exact .operand plain plain rfl

theorem fieldsOf_respelled (h : List.Forall₂ (Part.Respelled alike) sequence sequence') :
    Part.fieldsOf sequence = Part.fieldsOf sequence' := by
  have hfields : sequence.filterMap Part.field? = sequence'.filterMap Part.field? := by
    induction h with
    | nil => rfl
    | cons hpart _ ih =>
      cases hpart with
      | operator _ => exact ih
      | operand part _ => rw [List.filterMap_cons, List.filterMap_cons, ih]
  rw [Part.fieldsOf, Part.fieldsOf, hfields]

namespace Names

variable (h : Names table table' alike)
include h

/-- The conversion cannot tell the spellings from each other. -/
theorem reads : PrefixForm.Reads table table' (Part.Respelled alike) where
  paren hpart := by
    cases hpart with
    | operator hsymbol => exact h.paren hsymbol
    | operand part _ => rfl
  operator hpart := by
    cases hpart with
    | operator hsymbol =>
      refine ⟨_, rfl, ?_⟩
      rw [OperatorTable.priority, OperatorTable.priority, (h.operator hsymbol).1]
    | operand _ plain => exact absurd plain (by simp [Part.isOperator])
  operand hpart plain := by
    cases hpart with
    | operator _ => exact absurd plain (by simp [Part.isOperator])
    | operand _ _ => exact plain

/-- **The spelling of a rule does not matter**, neither to its dry runs nor to its values. -/
theorem rule (source source' : String)
    (hsequence : List.Forall₂ (Part.Respelled alike) sequence sequence') :
    Rule.Respelled alike ⟨source, sequence, table.bindings sequence⟩
      ⟨source', sequence', table'.bindings sequence'⟩ := by
  have hbound (symbol symbol' : String) (hsymbol : alike symbol symbol')
      (hmem : .operator symbol ∈ sequence) (hmem' : .operator symbol' ∈ sequence') :
      SameOperator (boundTo (table.bindings sequence)) (boundTo (table'.bindings sequence'))
        symbol symbol' := by
    unfold SameOperator boundTo
    rw [OperatorTable.get?_bindings_of_mem hmem, OperatorTable.get?_bindings_of_mem hmem']
    exact h.operator hsymbol
  have hvalue := evaluate_respelled hsequence hbound
  refine ⟨hsequence, ?_, hvalue⟩
  -- The second dry run is with inert operators, bound where the operators are.
  have hinert (op : Operator) :
      ∀ record, evaluate ((table.bindings sequence).map fun _ => op) record sequence =
        evaluate ((table'.bindings sequence').map fun _ => op) record sequence' := by
    refine evaluate_respelled hsequence fun symbol symbol' hsymbol hmem hmem' => ?_
    exact (hbound symbol symbol' hsymbol hmem hmem').map fun _ => op
  unfold Rule.isExpression Rule.inert Rule.sampleRecord Rule.evaluate Rule.fields
  simp only [fieldsOf_respelled hsequence, hvalue, hinert]

variable {parts parts' : List Part} (limits : Limits) (source source' : String)

theorem ofParts (hparts : List.Forall₂ (Part.Respelled alike) parts parts') :
    Outcome (PrefixForm.SameFault source source')
      (fun sequence sequence' =>
        Rule.Respelled alike ⟨source, sequence, table.bindings sequence⟩
          ⟨source', sequence', table'.bindings sequence'⟩)
      (PrefixForm.ofParts table limits source parts)
      (PrefixForm.ofParts table' limits source' parts') :=
  (PrefixForm.ofParts_related h.reads hparts).imp id (h.rule source source')

/-- Texts that are cut into parts of other spellings compile alike. -/
theorem ofText (hparts : List.Forall₂ (Part.Respelled alike) (table.segment source)
      (table'.segment source')) :
    Outcome (PrefixForm.SameFault source source') (Rule.Respelled alike)
      (Rule.ofText table limits source) (Rule.ofText table' limits source') := by
  refine (h.ofParts limits source source' hparts).bind fun {sequence sequence'} hrule => ?_
  dsimp only
  rw [hrule.accepted]
  split
  · exact .ok hrule
  · exact .error .invalid

end Names

/-! ## Which spellings name one operator -/

namespace OperatorTable

/-- Whether parts under one table mean what others do under another: they have no prefix form, for
one reason, or prefix forms that differ in the spelling and in nothing that they do. -/
def MeanAlike (alike : String → String → Prop) (table table' : OperatorTable)
    (parts parts' : List Part) : Prop :=
  ∀ limits source, Outcome Eq
    (fun sequence sequence' =>
      Rule.Respelled alike ⟨source, sequence, table.bindings sequence⟩
        ⟨source, sequence', table'.bindings sequence'⟩)
    (PrefixForm.ofParts table limits source parts) (PrefixForm.ofParts table' limits source parts')

/-- Whether a spelling is one of two symbols, in any casing. -/
def SpellsEither (symbol newSymbol spelling : String) : Prop :=
  key spelling = key symbol ∨ key spelling = key newSymbol

instance (symbol newSymbol spelling : String) :
    Decidable (SpellsEither symbol newSymbol spelling) :=
  inferInstanceAs (Decidable (_ ∨ _))

/-- A spelling and itself, or two spellings of one or the other of two symbols. -/
def Interchanged (symbol newSymbol spelling spelling' : String) : Prop :=
  spelling = spelling' ∨
    SpellsEither symbol newSymbol spelling ∧ SpellsEither symbol newSymbol spelling'

/-- A spelling of a symbol and one of the symbol that replaces it, or one of neither and itself. -/
def Replaced (symbol newSymbol spelling spelling' : String) : Prop :=
  key spelling = key symbol ∧ key spelling' = key newSymbol ∨
    spelling = spelling' ∧ ¬ SpellsEither symbol newSymbol spelling

/-- A spelling and itself, or two casings of a symbol that a table has. -/
def Recased (table : OperatorTable) (spelling spelling' : String) : Prop :=
  spelling = spelling' ∨ key spelling = key spelling' ∧ table.contains spelling = true

theorem meanAlike (h : Names table table' alike) {parts parts' : List Part}
    (hparts : List.Forall₂ (Part.Respelled alike) parts parts') :
    MeanAlike alike table table' parts parts' :=
  fun limits source => (h.ofParts limits source source hparts).imp PrefixForm.SameFault.eq id

theorem names_recased (hget : ∀ symbol, table.get? symbol = table'.get? symbol) :
    Names table table' table.Recased where
  paren halike := by
    rcases halike with rfl | ⟨hkey, -⟩
    · rfl
    · exact Part.parenOf?_congr hkey
  operator halike := by
    rcases halike with rfl | ⟨hkey, hcontains⟩
    · exact ⟨hget _, .inl rfl⟩
    · rw [contains_eq_isSome] at hcontains
      exact ⟨(get?_congr hkey).trans (hget _), .inr hcontains⟩

section Rename

variable {symbol newSymbol : String} {keep : Bool}
  (hrename : table.rename symbol newSymbol keep = .ok table')
include hrename

/-- What is renamed has its new symbol. -/
theorem exists_get?_of_rename :
    ∃ op, table.get? symbol = some op ∧ table'.get? newSymbol = some op := by
  obtain ⟨op, hget, -⟩ := rename_eq_ok_iff.mp hrename
  exact ⟨op, hget, by rw [get?_rename hrename hget, if_pos rfl]⟩

/-- An operator in another casing is still the operator of its symbol. -/
theorem get?_rename_of_recased (hkey : key newSymbol = key symbol) (other : String) :
    table.get? other = table'.get? other := by
  obtain ⟨op, hget, -⟩ := rename_eq_ok_iff.mp hrename
  rw [get?_rename hrename hget]
  split
  · next hother => rw [get?_congr (hother.trans hkey), hget]
  · next hother => rw [if_neg fun h => hother (h.2.trans hkey.symm)]

section NoParen

variable (hsymbol : Part.parenOf? symbol = none) (hnew : Part.parenOf? newSymbol = none)
include hsymbol hnew

omit hrename in
theorem parenOf?_of_spellsEither {spelling : String}
    (h : SpellsEither symbol newSymbol spelling) : Part.parenOf? spelling = none := by
  rcases h with h | h
  · rw [Part.parenOf?_congr h, hsymbol]
  · rw [Part.parenOf?_congr h, hnew]

/-- Where both symbols are kept, they name one operator. -/
theorem names_interchanged (hkeep : keep = true) :
    Names table' table' (Interchanged symbol newSymbol) where
  paren halike := by
    rcases halike with rfl | ⟨h, h'⟩
    · rfl
    · rw [parenOf?_of_spellsEither hsymbol hnew h, parenOf?_of_spellsEither hsymbol hnew h']
  operator halike := by
    obtain ⟨op, hget, -⟩ := rename_eq_ok_iff.mp hrename
    have hlook {spelling : String} (h : SpellsEither symbol newSymbol spelling) :
        table'.get? spelling = some op := by
      rw [get?_rename hrename hget]
      split
      · rfl
      · next hother =>
        rw [if_neg (by simp [hkeep]), get?_congr (h.resolve_right hother), hget]
    rcases halike with rfl | ⟨h, h'⟩
    · exact ⟨rfl, .inl rfl⟩
    · exact ⟨(hlook h).trans (hlook h').symm, .inr (by rw [hlook h]; rfl)⟩

/-- What the one symbol has named, the other one names; the rest is as it was. -/
theorem names_replaced : Names table table' (Replaced symbol newSymbol) where
  paren halike := by
    rcases halike with ⟨h, h'⟩ | ⟨rfl, -⟩
    · rw [parenOf?_of_spellsEither hsymbol hnew (.inl h),
        parenOf?_of_spellsEither hsymbol hnew (.inr h')]
    · rfl
  operator halike := by
    obtain ⟨op, hget, hget'⟩ := exists_get?_of_rename hrename
    rcases halike with ⟨h, h'⟩ | ⟨rfl, hneither⟩
    · have hlook : table.get? _ = some op := (get?_congr h).trans hget
      exact ⟨hlook.trans ((get?_congr h').trans hget').symm, .inr (by rw [hlook]; rfl)⟩
    · refine ⟨?_, .inl rfl⟩
      rw [get?_rename hrename hget, if_neg fun h => hneither (.inr h),
        if_neg fun h => hneither (.inl h.2)]

end NoParen

/-! ## Rules that are texts -/

/-- The matcher looks for the same after a renaming to another casing, if the two are one to it. -/
theorem mem_currentMatcher_of_recased [MatcherBuilder] (h : table.Reachable)
    (hkey : key newSymbol = key symbol)
    (hfold : ∀ registered ∈ table.symbols, key registered = key newSymbol →
      registered.toList.map Text.fold = newSymbol.toList.map Text.fold) (folded : List Char) :
    folded ∈ table.currentMatcher.symbols ↔ folded ∈ table'.currentMatcher.symbols := by
  obtain ⟨op, hget, -⟩ := rename_eq_ok_iff.mp hrename
  have h' : table'.Reachable := .step h (.rename symbol newSymbol keep hrename)
  have horderly := orderly_of_reachable h
  have horderly' := orderly_of_reachable h'
  have hentries := entries_rename hrename hget
  have hnew : newSymbol ∈ table'.symbols :=
    (mem_symbols_iff horderly').mpr ⟨op, by rw [hentries, if_pos rfl]⟩
  obtain ⟨registered, hregistered, hold⟩ :
      ∃ registered ∈ table.symbols, key registered = key newSymbol := by
    obtain ⟨entry, hentry, -⟩ := Option.map_eq_some_iff.mp hget
    have hentryKey := horderly.key_eq hentry
    refine ⟨entry.symbol, (mem_symbols_iff horderly).mpr ⟨entry.operator, ?_⟩, ?_⟩
    · rw [← hentryKey, hentry]
    · rw [hkey, ← hentryKey]
  -- The symbols are the same but for the one, and that one has kept its fold.
  have hother {other : String} (hne : key other ≠ key newSymbol) :
      other ∈ table.symbols ↔ other ∈ table'.symbols := by
    rw [mem_symbols_iff horderly, mem_symbols_iff horderly', hentries, if_neg hne,
      if_neg fun h => hne (h.2.trans hkey.symm)]
  rw [mem_currentMatcher_iff h, mem_currentMatcher_iff h']
  refine or_congr_left ⟨?_, ?_⟩
  · rintro ⟨other, hmem, rfl⟩
    by_cases hsame : key other = key newSymbol
    · exact ⟨newSymbol, hnew, (hfold other hmem hsame).symm⟩
    · exact ⟨other, (hother hsame).mp hmem, rfl⟩
  · rintro ⟨other, hmem, rfl⟩
    by_cases hsame : key other = key newSymbol
    · obtain ⟨op', hop'⟩ := (mem_symbols_iff horderly').mp hmem
      rw [hentries, if_pos hsame] at hop'
      obtain ⟨rfl, -⟩ := TableEntry.mk.inj (Option.some.inj hop')
      exact ⟨registered, hregistered, hfold registered hregistered hold⟩
    · exact ⟨other, (hother hsame).mpr hmem, rfl⟩

theorem segment_of_recased [MatcherBuilder] (h : table.Reachable)
    (hkey : key newSymbol = key symbol)
    (hfold : ∀ registered ∈ table.symbols, key registered = key newSymbol →
      registered.toList.map Text.fold = newSymbol.toList.map Text.fold) (rule : String) :
    table.segment rule = table'.segment rule := by
  have h' : table'.Reachable := .step h (.rename symbol newSymbol keep hrename)
  refine segment_of_recogniser ?_ (fun other => ?_) rule
  · exact recogniser_congr h h' (mem_currentMatcher_of_recased hrename h hkey hfold)
  · rw [contains_eq_isSome, contains_eq_isSome, get?_rename_of_recased hrename hkey]

end Rename

/-- Where the operators are the same and rules are cut alike, they compile alike. -/
theorem ofText_congr (hget : ∀ symbol, table.get? symbol = table'.get? symbol) {source : String}
    (hsegment : table.segment source = table'.segment source) (limits : Limits) :
    Rule.ofText table limits source = Rule.ofText table' limits source :=
  Rule.ofText_congr limits hsegment fun symbol _ => hget symbol

/-! ## The main statement -/

/-- **Operator symbols are only names.** After an operator was given another symbol, parts mean the
same that spell it by its old or its new symbol, in any casing, if the old one was kept; and in any
case parts that do without the new symbol mean what they did before, once it stands in place of the
old one. Parts that differ in the casing of operators mean the same under every table, and texts
that are cut into such parts compile alike. So it does not matter either if it is only the casing of
a symbol that was changed in the table: all parts mean what they did before, in whatever casing, and
all texts compile to the same rules as before if the matcher takes the two casings for one. -/
theorem symbols_are_names [MatcherBuilder] {symbol newSymbol : String} {keep : Bool}
    (h : table.Reachable) (hrename : table.rename symbol newSymbol keep = .ok table')
    (hsymbol : Part.parenOf? symbol = none) (hnew : Part.parenOf? newSymbol = none) :
    (keep = true → ∀ parts parts',
      List.Forall₂ (Part.Respelled (Interchanged symbol newSymbol)) parts parts' →
        MeanAlike (Interchanged symbol newSymbol) table' table' parts parts') ∧
    (∀ parts parts', List.Forall₂ (Part.Respelled (Replaced symbol newSymbol)) parts parts' →
      MeanAlike (Replaced symbol newSymbol) table table' parts parts') ∧
    (∀ parts parts', List.Forall₂ (Part.Respelled table.Recased) parts parts' →
      MeanAlike table.Recased table table parts parts') ∧
    (∀ limits source source',
      List.Forall₂ (Part.Respelled table.Recased) (table.segment source) (table.segment source') →
        Outcome (PrefixForm.SameFault source source') (Rule.Respelled table.Recased)
          (Rule.ofText table limits source) (Rule.ofText table limits source')) ∧
    (key newSymbol = key symbol →
      (∀ parts parts', List.Forall₂ (Part.Respelled table.Recased) parts parts' →
        MeanAlike table.Recased table table' parts parts') ∧
      ((∀ registered ∈ table.symbols, key registered = key newSymbol →
          registered.toList.map Text.fold = newSymbol.toList.map Text.fold) →
        ∀ limits source, Rule.ofText table limits source = Rule.ofText table' limits source)) := by
  have hself : Names table table table.Recased := names_recased fun _ => rfl
  refine ⟨fun hkeep parts parts' => ?_, fun parts parts' => ?_, fun parts parts' => ?_,
    fun limits source source' => hself.ofText limits source source', fun hkey => ⟨?_, ?_⟩⟩
  · exact meanAlike (names_interchanged hrename hsymbol hnew hkeep)
  · exact meanAlike (names_replaced hrename hsymbol hnew)
  · exact meanAlike hself
  · exact fun parts parts' => meanAlike (names_recased (get?_rename_of_recased hrename hkey))
  · intro hfold limits source
    exact ofText_congr (get?_rename_of_recased hrename hkey)
      (segment_of_recased hrename h hkey hfold source) limits

/-- A second symbol for ` and ` means what the first one means in any casing, and takes its place
when that one is given up; in another casing the operator is found in the same texts. -/
theorem symbols_are_names_of_and :
    ∃ both renamed recased : OperatorTable,
      builtin.rename " and " "&&" true = .ok both ∧
      builtin.rename " and " "&&" false = .ok renamed ∧
      builtin.rename " and " " And " false = .ok recased ∧
      MeanAlike (Interchanged " and " "&&") both both
        [.field "a", .operator " AND ", .field "b", .operator "&&"]
        [.field "a", .operator "&&", .field "b", .operator " and "] ∧
      MeanAlike (Replaced " and " "&&") builtin renamed
        [.field "a", .operator " AND ", .field "b", .operator ")"]
        [.field "a", .operator "&&", .field "b", .operator ")"] ∧
      ∀ limits source, Rule.ofText builtin limits source = Rule.ofText recased limits source := by
  have hfound : (builtin.get? " and ").isSome = true := by decide +kernel
  obtain ⟨op, hop⟩ := Option.isSome_iff_exists.mp hfound
  have hrename (newSymbol : String) (keep : Bool) (hnew : newSymbol ≠ "") :
      ∃ table', builtin.rename " and " newSymbol keep = .ok table' :=
    ⟨_, rename_eq_ok_iff.mpr ⟨op, hop, hnew, rfl⟩⟩
  obtain ⟨both, hboth⟩ := hrename "&&" true (by decide)
  obtain ⟨renamed, hrenamed⟩ := hrename "&&" false (by decide)
  obtain ⟨recased, hrecased⟩ := hrename " And " false (by decide)
  obtain ⟨hinterchanged, -⟩ := symbols_are_names .builtin hboth (by decide) (by decide)
  obtain ⟨-, hreplaced, -⟩ := symbols_are_names .builtin hrenamed (by decide) (by decide)
  obtain ⟨-, -, -, -, htexts⟩ := symbols_are_names .builtin hrecased (by decide) (by decide)
  refine ⟨both, renamed, recased, hboth, hrenamed, hrecased, ?_, ?_, ?_⟩
  · refine hinterchanged rfl _ _ (.cons (.operand _ rfl) (.cons (.operator (.inr ?_))
      (.cons (.operand _ rfl) (.cons (.operator (.inr ?_)) .nil)))) <;> decide +kernel
  · refine hreplaced _ _ (.cons (.operand _ rfl) (.cons (.operator (.inl ?_))
      (.cons (.operand _ rfl) (.cons (.operator (.inr ?_)) .nil)))) <;> decide +kernel
  · exact (htexts (by decide +kernel)).2 (by decide +kernel)

end OperatorTable

end RuleLang
