import RuleLang.Proofs.RuleBook.Failure
import RuleLang.Proofs.Segment.AgreeOn

/-!
# Operators that a rule does not mention

A new symbol changes the matcher, the order in which symbols are tried, and what every piece of a
rule is looked up in. Main statement: **a rule in which the symbol does not occur compiles as it did
before the symbol was added**, and as it does after the symbol was removed again
(`unmentioned_operators_do_not_matter`).

Where a text has no place for a symbol, the tables with and without it agree on the text
(`agreeOn_of_insert`): the matcher could find it only there, and nothing that stands in the text is
looked up under its key. The second needs the symbol to be ASCII, since beyond that a text may have
the key of a symbol without matching it. All this is said of symbols that a matcher can be built
with: one that is too long for that keeps every text from compiling
(`unmentioned_longSymbol_matters`).
-/

set_option autoImplicit false

namespace RuleLang

/-- Whether a symbol stands somewhere in a text, letter case aside. -/
def Text.Occurs (symbol text : List Char) : Prop :=
  symbol.map Text.fold <:+: text.map Text.fold

instance (symbol text : List Char) : Decidable (Text.Occurs symbol text) :=
  inferInstanceAs (Decidable (_ <:+: _))

theorem Text.occurs_of_isInfix {symbol spelling text : List Char} (h : spelling <:+: text)
    (hfold : symbol.map Text.fold = spelling.map Text.fold) : Text.Occurs symbol text := by
  rw [Text.Occurs, hfold]
  exact h.map Text.fold

namespace OperatorTable

variable {t t' : OperatorTable} {symbol : String} {op : Operator} {text : List Char}

theorem key_ne_of_mem_symbols (h : t.Orderly) (hfree : t.contains symbol = false) {other : String}
    (hmem : other ∈ t.symbols) : key other ≠ key symbol := by
  intro hkey
  have hcontains := contains_of_mem_symbols h hmem
  rw [contains, hkey, ← contains, hfree] at hcontains
  exact Bool.noConfusion hcontains

/-- The symbols of a table that a new one was added to. -/
theorem mem_symbols_of_insert (h : t.Orderly) (hfree : t.contains symbol = false)
    (hinsert : t.insert symbol op = .ok t') {other : String} :
    other ∈ t'.symbols ↔ other = symbol ∨ other ∈ t.symbols := by
  have horderly := orderly_insert h hinsert
  obtain ⟨-, rfl⟩ := insert_eq_ok_iff.mp hinsert
  rw [mem_symbols_iff horderly]
  simp only [SortedMap.get?_insert, Std.LawfulEqCmp.compare_eq_iff_eq]
  by_cases hkey : key other = key symbol
  · have hother : other ∉ t.symbols := fun hmem => key_ne_of_mem_symbols h hfree hmem hkey
    simp [hkey, hother, eq_comm]
  · have hother : other ≠ symbol := fun heq => hkey (congrArg key heq)
    simp [hkey, hother, mem_symbols_iff h]

/-- **A text in which a new symbol does not occur sees nothing of it.** -/
theorem agreeOn_of_insert [MatcherBuilder] (h : t.Reachable) (hascii : Text.Ascii symbol.toList)
    (hfree : t.contains symbol = false) (hinsert : t.insert symbol op = .ok t')
    (htext : ¬ Text.Occurs symbol.toList text) : AgreeOn t t' text where
  recognises spelling hspelling := by
    have hsymbols (other : String) : other ∈ t'.symbols ↔ other = symbol ∨ other ∈ t.symbols :=
      mem_symbols_of_insert (orderly_of_reachable h) hfree hinsert
    refine or_congr_left ⟨fun hspelled => ?_, fun hspelled => ?_⟩
    · obtain ⟨other, hmem, hfold⟩ := hspelled
      exact ⟨other, (hsymbols other).mpr (.inr hmem), hfold⟩
    · obtain ⟨other, hmem, hfold⟩ := hspelled
      rcases (hsymbols other).mp hmem with rfl | hmem
      · exact absurd (Text.occurs_of_isInfix hspelling hfold) htext
      · exact ⟨other, hmem, hfold⟩
  operator spelling hspelling := by
    rw [get?_insert hinsert, if_neg]
    intro hkey
    have hfold := Text.map_fold_of_lower_eq hascii hkey
    rw [String.toList_ofList] at hfold
    exact htext (Text.occurs_of_isInfix hspelling hfold.symm)

/-- Removing a symbol that was added leaves the entries that there were. -/
theorem entries_erase_of_insert (hfree : t.contains symbol = false)
    (hinsert : t.insert symbol op = .ok t') : (t'.erase symbol).entries = t.entries := by
  obtain ⟨-, rfl⟩ := insert_eq_ok_iff.mp hinsert
  rw [contains, SortedMap.contains, Option.isSome_eq_false_iff, Option.isNone_iff_eq_none] at hfree
  rw [erase_entries, SortedMap.erase_insert, SortedMap.erase_eq_self hfree]

end OperatorTable

namespace RuleBook

section Builder

variable [MatcherBuilder] {book book' added : RuleBook} {symbol source : String} {op : Operator}

/-- Books whose tables agree on a text compile it alike, if both tables have a matcher, or both have
none for the same reason. -/
theorem compile_of_agreeOn (h : book.operators.Reachable) (h' : book'.operators.Reachable)
    (hlimits : book.limits = book'.limits)
    (hrefusal : book.operators.refusal? = book'.operators.refusal?)
    (hagree : book.operators.AgreeOn book'.operators source.toList) :
    (book.compile source).1 = (book'.compile source).1 := by
  rcases Nat.lt_or_ge book.limits.maxRuleBytes source.utf8ByteSize with hlt | hle
  · rw [compile_of_lt hlt, compile_of_lt (hlimits ▸ hlt), hlimits]
  · cases haccepted : book.operators.refusal? with
    | some reason =>
      rw [compile_of_refusal hle haccepted,
        compile_of_refusal (hlimits ▸ hle) (hrefusal.symm.trans haccepted)]
    | none =>
      have haccepted' := hrefusal.symm.trans haccepted
      have hprepared : book.operators.prepared.AgreeOn book'.operators.prepared source.toList :=
        ⟨hagree.recognises, hagree.operator⟩
      rw [compile_of_accepted hle haccepted, compile_of_accepted (hlimits ▸ hle) haccepted',
        hlimits]
      exact hprepared.ofText
        (.step h (.prepare (OperatorTable.prepare_eq_ok_iff.mpr ⟨haccepted, rfl⟩)))
        (.step h' (.prepare (OperatorTable.prepare_eq_ok_iff.mpr ⟨haccepted', rfl⟩))) book'.limits

/-- **A rule that does not mention a new operator compiles as before.** -/
theorem compile_of_addOperator (h : book.operators.Reachable) (hascii : Text.Ascii symbol.toList)
    (hfree : book.operators.contains symbol = false)
    (hsource : ¬ Text.Occurs symbol.toList source.toList)
    (hadd : book.addOperator symbol op = (.ok (), added))
    (hbuilder : MatcherBuilder.refusal? added.operators.symbols =
      MatcherBuilder.refusal? book.operators.symbols) :
    (added.compile source).1 = (book.compile source).1 := by
  obtain ⟨t, hinsert, rfl⟩ := addOperator_eq_ok_iff.mp hadd
  have hreachable : t.Reachable := .step h (.insert symbol op hinsert)
  have hagree := OperatorTable.agreeOn_of_insert h hascii hfree hinsert hsource
  have hrefusal : book.operators.refusal? = t.refusal? := by
    rw [OperatorTable.refusal?_of_reachable h, OperatorTable.refusal?_of_reachable hreachable]
    exact hbuilder.symm
  exact (@compile_of_agreeOn _ book { book with operators := t } source h hreachable rfl hrefusal
    hagree).symm

/-- A book to which an operator was added and from which it was removed is the book that it was,
whatever was compiled meanwhile. -/
theorem sameButMatcher_of_eraseOperator (hfree : book.operators.contains symbol = false)
    (hadd : book.addOperator symbol op = (.ok (), added)) (source : String) :
    ((added.compile source).2.eraseOperator symbol).SameButMatcher book := by
  obtain ⟨t, hinsert, rfl⟩ := addOperator_eq_ok_iff.mp hadd
  have hsame := SameButMatcher.of_compile { book with operators := t } source
  refine ⟨hsame.rules, hsame.limits, ?_⟩
  rw [eraseOperator, OperatorTable.erase_entries, hsame.entries, ← OperatorTable.erase_entries]
  exact OperatorTable.entries_erase_of_insert hfree hinsert

/-- **Operators that a rule does not mention do not matter to it.** A new operator, with an ASCII
symbol that occurs nowhere in a text, is added to the book after the text was compiled. If the
builder of matchers takes the symbols with the new one as it took them without, the text compiles to
the same rule as before, with the same prefix form and the same operators bound, or fails with the
same error. And so it does once more, in any case, after the operator was removed. -/
theorem unmentioned_operators_do_not_matter (op : Operator) (h : book.operators.Reachable)
    (hsymbol : symbol ≠ "") (hascii : Text.Ascii symbol.toList)
    (hfree : book.operators.contains symbol = false)
    (hsource : ¬ Text.Occurs symbol.toList source.toList) :
    ∃ added, (book.compile source).2.addOperator symbol op = (.ok (), added) ∧
      (MatcherBuilder.refusal? added.operators.symbols =
          MatcherBuilder.refusal? book.operators.symbols →
        (added.compile source).1 = (book.compile source).1) ∧
      (((added.compile source).2.eraseOperator symbol).compile source).1 =
        (book.compile source).1 := by
  have hsame := SameButMatcher.of_compile book source
  have hreachable : (book.compile source).2.operators.Reachable := reachable_run [.compile source] h
  have hfree' : (book.compile source).2.operators.contains symbol = false := by
    rw [OperatorTable.contains, hsame.entries, ← OperatorTable.contains, hfree]
  obtain ⟨added, hadd⟩ := exists_addOperator (book.compile source).2 hsymbol op
  have hrun := reachable_run
    [.compile source, .addOperator symbol op, .compile source, .eraseOperator symbol] h
  refine ⟨added, hadd, fun hbuilder => ?_, ?_⟩
  · have hsymbols : (book.compile source).2.operators.symbols = book.operators.symbols := by
      rw [OperatorTable.symbols, hsame.entries, ← OperatorTable.symbols]
    rw [compile_of_addOperator hreachable hascii hfree' hsource hadd (hsymbols ▸ hbuilder),
      hsame.compile_eq hreachable h]
  · have hback := (sameButMatcher_of_eraseOperator hfree' hadd source).trans hsame
    refine hback.compile_eq ?_ h source
    simpa [run, perform, hadd] using hrun

end Builder

/-- A rule with `!=` in it is the same whether or not `=>` is an operator, though its `>` would be
read otherwise behind a `=`. -/
theorem unmentioned_operators_do_not_matter_of_arrow :
    let book : RuleBook := {}
    let source := "[a] != 1 and [b] > 2"
    (book.compile source).1.isOk = true ∧
      ∃ added, (book.compile source).2.addOperator "=>" ⟨1, Operator.equal⟩ = (.ok (), added) ∧
        (added.compile source).1 = (book.compile source).1 ∧
        (((added.compile source).2.eraseOperator "=>").compile source).1 =
          (book.compile source).1 := by
  intro book source
  refine ⟨by decide +kernel, ?_⟩
  obtain ⟨added, hadd, hcompile, herase⟩ :=
    @unmentioned_operators_do_not_matter _ book "=>" source ⟨1, Operator.equal⟩ .builtin (by decide)
      (by decide) (by decide +kernel) (by decide +kernel)
  refine ⟨added, hadd, hcompile ?_, herase⟩
  obtain ⟨t, hinsert, rfl⟩ := addOperator_eq_ok_iff.mp hadd
  obtain ⟨-, rfl⟩ := OperatorTable.insert_eq_ok_iff.mp hinsert
  decide +kernel

/-! ## A symbol that matters all the same -/

theorem ascii_replicate (n : Nat) : Text.Ascii (String.ofList (List.replicate n '@')).toList := by
  intro c hc
  rw [String.toList_ofList] at hc
  rw [List.eq_of_mem_replicate hc]
  decide

/-- Signs have no lower case: a symbol made of them is its own key. -/
theorem key_replicate (n : Nat) :
    OperatorTable.key (String.ofList (List.replicate n '@')) =
      String.ofList (List.replicate n '@') := by
  have hfold : Text.fold '@' = '@' := by decide
  rw [OperatorTable.key, Text.lower_of_ascii (ascii_replicate n), String.toList_ofList,
    List.map_replicate, hfold]

theorem ascii_longSymbol : Text.Ascii longSymbol.toList := ascii_replicate 500000

theorem contains_longSymbol : OperatorTable.builtin.contains longSymbol = false := by
  have hshort : ∀ k ∈ OperatorTable.builtin.entries.keys, k.utf8ByteSize ≤ 16 := by
    decide +kernel
  have hkey : OperatorTable.key longSymbol = longSymbol := key_replicate 500000
  refine Bool.eq_false_iff.mpr fun hcontains => ?_
  rw [OperatorTable.contains, hkey] at hcontains
  have hsize := hshort _ (SortedMap.mem_keys_iff.mpr hcontains)
  rw [utf8ByteSize_longSymbol] at hsize
  exact absurd hsize (by decide)

theorem toList_longSymbol : longSymbol.toList = List.replicate 500000 '@' := String.toList_ofList

theorem not_occurs_longSymbol {text : List Char} (h : text.length < 500000) :
    ¬ Text.Occurs longSymbol.toList text := by
  intro hoccurs
  have hle := hoccurs.length_le
  rw [toList_longSymbol, List.length_map, List.length_map, List.length_replicate] at hle
  exact absurd h (Nat.not_lt.mpr hle)

/-- The builder has to take the new symbol: one that is too long keeps a rule from compiling that
has nothing to do with it. -/
theorem unmentioned_longSymbol_matters :
    let book : RuleBook := {}
    let source := "1 + 1"
    longSymbol ≠ "" ∧ Text.Ascii longSymbol.toList ∧ book.operators.AsciiSymbols ∧
      book.operators.contains longSymbol = false ∧
      ¬ Text.Occurs longSymbol.toList source.toList ∧
      (book.compile source).1.isOk = true ∧
      ∃ added,
        (book.compile source).2.addOperator longSymbol ⟨1, Operator.add⟩ = (.ok (), added) ∧
        (added.compile source).1 = .error (.engine ("Cannot build operator pattern: " ++
          "Compiled regex exceeds size limit of 10485760 bytes.")) := by
  intro book source
  refine ⟨longSymbol_ne_empty, ascii_longSymbol, by decide +kernel, contains_longSymbol,
    not_occurs_longSymbol (by decide), by decide +kernel, ?_⟩
  obtain ⟨added, hadd⟩ :=
    exists_addOperator (book.compile source).2 longSymbol_ne_empty ⟨1, Operator.add⟩
  have hreachable : (book.compile source).2.operators.Reachable :=
    @reachable_run _ book [.compile source] .builtin
  have horderly := OperatorTable.orderly_of_reachable hreachable
  refine ⟨added, hadd, compile_of_longSymbol horderly hadd ?_⟩
  rw [compile_limits]
  decide

end RuleBook

end RuleLang
