import RuleLang.Operator.MatcherSize
import Mathlib.Data.List.Chain
import RuleLang.Proofs.Operator.Entries
import RuleLang.Proofs.Segment.Operators
import RuleLang.Proofs.Segment.Splitting

/-!
# Cutting undoes writing

Parts that are written one after the other, with nothing between them, are cut into the same parts
again (`segment_source`). What a literal holds does not matter for that. What matters is what could
be read across the border of two parts: two literals side by side are read as one, and so may be the
symbols of two operators. Anything else stands apart (`Apart`), as long as no symbol has a
parenthesis in it.

Literals and fields cut a text in two, so the proof goes from one of them to the next and comes down
to operators and parentheses alone (`operatorParts_source`). There the longest match has to be the
symbol that was written. A longer one would reach into the parenthesis behind it
(`length_eq_one_of_paren_mem`).
-/

set_option autoImplicit false

namespace RuleLang

namespace Part

def isText : Part → Bool
  | text _ => true
  | _ => false

/-- Whether a part is an operator and no parenthesis. -/
def isSymbol : Part → Bool
  | operator symbol => (parenOf? symbol).isNone
  | _ => false

end Part

namespace Segment

/-- A part whose source can be read: any literal, a field without brackets and quotes in its name,
a parenthesis, or a symbol of the table without brackets and quotes, as it is spelled there. -/
def Printable (table : OperatorTable) : Part → Prop
  | .text _ => True
  | .field name => Unmarked name.toList
  | .operator symbol =>
    Part.parenOf? symbol ≠ none ∨ symbol ∈ table.symbols ∧ Unmarked symbol.toList
  | .other _ => False

instance (table : OperatorTable) : DecidablePred (Printable table)
  | .text _ => isTrue trivial
  | .field name => inferInstanceAs (Decidable (Unmarked name.toList))
  | .operator symbol =>
    inferInstanceAs (Decidable
      (Part.parenOf? symbol ≠ none ∨ symbol ∈ table.symbols ∧ Unmarked symbol.toList))
  | .other _ => isFalse id

/-- Parts that can stand side by side: not two literals, nor two symbols. A parenthesis can stand
beside anything. -/
def Apart (part next : Part) : Prop :=
  ¬ (part.isText = true ∧ next.isText = true) ∧ ¬ (part.isSymbol = true ∧ next.isSymbol = true)

instance : DecidableRel Apart := fun part next =>
  inferInstanceAs (Decidable (¬ (part.isText = true ∧ next.isText = true) ∧
    ¬ (part.isSymbol = true ∧ next.isSymbol = true)))

/-- No symbol of a table has a parenthesis in it. -/
def ParenFree (table : OperatorTable) : Prop :=
  ∀ symbol ∈ table.symbols, '(' ∉ symbol.toList ∧ ')' ∉ symbol.toList

instance (table : OperatorTable) : Decidable (ParenFree table) :=
  inferInstanceAs (Decidable (∀ symbol ∈ table.symbols, '(' ∉ symbol.toList ∧ ')' ∉ symbol.toList))

/-- The text of some parts, written one after the other. -/
def sourceOf (parts : List Part) : List Char := parts.flatMap Part.source

variable {table : OperatorTable}

theorem sourceOf_cons (part : Part) (parts : List Part) :
    sourceOf (part :: parts) = part.source ++ sourceOf parts :=
  List.flatMap_cons

theorem sourceOf_append (parts parts' : List Part) :
    sourceOf (parts ++ parts') = sourceOf parts ++ sourceOf parts' :=
  List.flatMap_append

theorem exists_symbol_of_isOperator {part : Part} (h : part.isOperator = true) :
    ∃ symbol, part = .operator symbol := by
  cases part with
  | operator symbol => exact ⟨symbol, rfl⟩
  | text _ | field _ | other _ => exact absurd h (by simp [Part.isOperator])

/-! ## What is found in front of a parenthesis -/

theorem mem_parentheses_iff {symbol : String} :
    symbol.toList ∈ Matcher.parentheses ↔ Part.parenOf? symbol ≠ none := by
  constructor
  · intro h
    have hparen := parenOf?_of_mem_parentheses h
    rwa [String.ofList_toList] at hparen
  · unfold Part.parenOf?
    split
    · next hopen => simp [hopen, Matcher.parentheses]
    · split
      · next hclose => simp [hclose, Matcher.parentheses]
      · simp

theorem toList_ne_nil [MatcherBuilder] (h : table.Reachable) {symbol : String}
    (hsymbol : Printable table (.operator symbol)) : symbol.toList ≠ [] := by
  rcases hsymbol with hparen | ⟨hmem, _⟩
  · obtain ⟨c, hc⟩ := Matcher.exists_eq_singleton_of_paren (mem_parentheses_iff.mpr hparen)
    simp [hc]
  · simpa using
      OperatorTable.nonempty_of_mem_symbols (OperatorTable.orderly_of_reachable h) hmem

theorem eq_of_paren {c : Char} (h : [c] ∈ Matcher.parentheses) : c = '(' ∨ c = ')' := by
  simpa [Matcher.parentheses] using h

/-- **What is found does not reach into a parenthesis**: it would be the fold of a symbol that has
one in it. -/
theorem length_eq_one_of_paren_mem [MatcherBuilder] (h : table.Reachable) (hfree : ParenFree table)
    {found : List Char} (hfound : found.map Text.fold ∈ table.currentMatcher.symbols) {c : Char}
    (hparen : [c] ∈ Matcher.parentheses) (hc : c ∈ found) : found.length = 1 := by
  rcases (OperatorTable.mem_currentMatcher_iff h).mp hfound with ⟨symbol, hsymbol, hfold⟩ | hfound
  · exfalso
    have hmem : Text.fold c ∈ symbol.toList.map Text.fold := by
      rw [hfold]
      exact List.mem_map_of_mem hc
    obtain ⟨d, hd, hcd⟩ := List.mem_map.mp hmem
    have hcaseless := Matcher.has_caseless_of_paren hparen
    rw [(Text.fold_eq_iff hcaseless).mpr rfl, Text.fold_eq_iff hcaseless] at hcd
    obtain ⟨hopen, hclose⟩ := hfree symbol hsymbol
    rcases eq_of_paren hparen with rfl | rfl
    · exact hopen (hcd ▸ hd)
    · exact hclose (hcd ▸ hd)
  · have hlength := Matcher.length_of_mem_parentheses hfound
    rwa [List.length_map] at hlength

/-- A symbol or a parenthesis is found where it stands, if a parenthesis or nothing follows the
symbol. -/
theorem find?_source [MatcherBuilder] (h : table.Reachable) (hfree : ParenFree table)
    {symbol : String} (hsymbol : Printable table (.operator symbol)) {rest : List Char}
    (hrest : Part.parenOf? symbol = none → ∀ c, rest.head? = some c → [c] ∈ Matcher.parentheses) :
    table.currentMatcher.recogniser.find? (symbol.toList ++ rest) = some (symbol.toList, rest) := by
  have hmatcher := OperatorTable.currentMatcher_of_reachable h
  have hnonempty : symbol.toList ≠ [] := toList_ne_nil h hsymbol
  rw [hmatcher]
  refine Matcher.find?_of_longest ?_ fun other after htext hother => ?_
  · rw [← hmatcher, OperatorTable.mem_currentMatcher_iff h]
    rcases hsymbol with hparen | ⟨hmem, _⟩
    · rw [← mem_parentheses_iff] at hparen
      exact .inr (by rwa [Matcher.map_fold_paren hparen])
    · exact .inl ⟨symbol, hmem, rfl⟩
  · rw [← hmatcher] at hother
    by_contra hlt
    rw [Nat.not_le] at hlt
    obtain ⟨extra, rfl⟩ : symbol.toList <+: other :=
      List.prefix_of_prefix_length_le ⟨rest, rfl⟩ ⟨after, htext.symm⟩ (Nat.le_of_lt hlt)
    rw [List.append_assoc] at htext
    obtain rfl := List.append_cancel_left htext
    -- A longer match has a parenthesis in it: the symbol itself, or what stands behind it.
    obtain ⟨c, hc, hparen⟩ : ∃ c ∈ symbol.toList ++ extra, [c] ∈ Matcher.parentheses := by
      cases hkind : Part.parenOf? symbol with
      | some _ =>
        have hparen : symbol.toList ∈ Matcher.parentheses :=
          mem_parentheses_iff.mpr (by rw [hkind]; simp)
        obtain ⟨c, hc⟩ := Matcher.exists_eq_singleton_of_paren hparen
        exact ⟨c, by simp [hc], hc ▸ hparen⟩
      | none =>
        cases extra with
        | nil => exact absurd hlt (by simp)
        | cons c extra => exact ⟨c, by simp, hrest hkind c rfl⟩
    have hone := length_eq_one_of_paren_mem h hfree hother hparen hc
    have hpos := List.length_pos_iff.mpr hnonempty
    omega

/-! ## Operators and parentheses alone -/

theorem operatorParts_source [MatcherBuilder] (h : table.Reachable) (hfree : ParenFree table)
    {parts : List Part} (hprintable : ∀ part ∈ parts, Printable table part)
    (hapart : parts.IsChain Apart)
    (hoperators : ∀ part ∈ parts, part.isOperator = true) :
    operatorParts table (sourceOf parts) = parts := by
  induction parts with
  | nil => exact operatorParts_nil
  | cons part parts ih =>
    rw [List.forall_mem_cons] at hprintable hoperators
    rw [List.isChain_cons] at hapart
    obtain ⟨symbol, rfl⟩ := exists_symbol_of_isOperator hoperators.1
    have hrest (hkind : Part.parenOf? symbol = none) (c : Char)
        (hc : (sourceOf parts).head? = some c) : [c] ∈ Matcher.parentheses := by
      cases parts with
      | nil => exact absurd hc (by simp [sourceOf])
      | cons next parts =>
        obtain ⟨symbol', rfl⟩ := exists_symbol_of_isOperator (hoperators.2 next List.mem_cons_self)
        have hparen : Part.parenOf? symbol' ≠ none := by
          intro hkind'
          refine (hapart.1 _ rfl).2 ⟨?_, ?_⟩
          · simp [Part.isSymbol, hkind]
          · simp [Part.isSymbol, hkind']
        rw [← mem_parentheses_iff] at hparen
        obtain ⟨d, hd⟩ := Matcher.exists_eq_singleton_of_paren hparen
        rw [sourceOf_cons, Part.source, hd, List.singleton_append, List.head?_cons] at hc
        obtain rfl := Option.some.inj hc
        rwa [hd] at hparen
    have hknown : symbol.toList ∈ Matcher.parentheses ∨ table.contains symbol = true := by
      rcases hprintable.1 with hparen | ⟨hmem, _⟩
      · exact .inl (mem_parentheses_iff.mpr hparen)
      · have horderly := OperatorTable.orderly_of_reachable h
        exact .inr (OperatorTable.contains_of_mem_symbols horderly hmem)
    rw [sourceOf_cons, Part.source, operatorParts,
      Recogniser.pieces_of_found (find?_source h hfree hprintable.1 hrest), List.filterMap_cons,
      operatorPart?, String.ofList_toList, if_pos hknown]
    show Part.operator symbol :: operatorParts table (sourceOf parts) = _
    rw [ih hprintable.2 hapart.2 hoperators.2]

theorem unmarked_of_printable {symbol : String} (h : Printable table (.operator symbol)) :
    Unmarked symbol.toList := by
  rcases h with hparen | ⟨_, hunmarked⟩
  · rw [← mem_parentheses_iff] at hparen
    obtain ⟨c, hc⟩ := Matcher.exists_eq_singleton_of_paren hparen
    rw [hc] at hparen ⊢
    rcases eq_of_paren hparen with rfl | rfl <;> decide
  · exact hunmarked

theorem unmarked_sourceOf {parts : List Part} (hprintable : ∀ part ∈ parts, Printable table part)
    (hoperators : ∀ part ∈ parts, part.isOperator = true) : Unmarked (sourceOf parts) := by
  intro c hc
  obtain ⟨part, hmem, hc⟩ := List.mem_flatMap.mp hc
  obtain ⟨symbol, rfl⟩ := exists_symbol_of_isOperator (hoperators part hmem)
  exact unmarked_of_printable (hprintable _ hmem) c hc

theorem ruleParts_operators [MatcherBuilder] (h : table.Reachable) (hfree : ParenFree table)
    {parts : List Part} (hprintable : ∀ part ∈ parts, Printable table part)
    (hapart : parts.IsChain Apart)
    (hoperators : ∀ part ∈ parts, part.isOperator = true) :
    ruleParts table (sourceOf parts) = parts := by
  have hunmarked := unmarked_sourceOf hprintable hoperators
  rw [ruleParts_eq_fieldParts fun hmem => (hunmarked _ hmem).2.2 rfl,
    fieldParts_eq_operatorParts fun hmem => (hunmarked _ hmem).1 rfl,
    operatorParts_source h hfree hprintable hapart hoperators]

/-! ## From one literal or field to the next -/

/-- No quote follows where no literal does. -/
theorem head?_sourceOf_ne_quote [MatcherBuilder] (h : table.Reachable) {parts : List Part}
    (hprintable : ∀ part ∈ parts, Printable table part)
    (hnext : ∀ part ∈ parts.head?, part.isText = false) :
    (sourceOf parts).head? ≠ some '\'' := by
  cases parts with
  | nil => simp [sourceOf]
  | cons part parts =>
    have hpart := hprintable part List.mem_cons_self
    rw [sourceOf_cons]
    cases part with
    | text content => exact absurd (hnext _ rfl) (by simp [Part.isText])
    | field name => simp [Part.source]
    | other literal => exact absurd hpart id
    | operator symbol =>
      obtain ⟨c, cs, hcs⟩ := List.exists_cons_of_ne_nil (toList_ne_nil h hpart)
      have hc := unmarked_of_printable hpart c (by simp [hcs])
      simp [Part.source, hcs, hc.2.2]

/-- The parts are gone through from one literal or field to the next, `front` being the operators
and parentheses in between. -/
theorem ruleParts_source [MatcherBuilder] (h : table.Reachable) (hfree : ParenFree table)
    (parts : List Part) :
    ∀ {front : List Part}, (∀ part ∈ front ++ parts, Printable table part) →
      (front ++ parts).IsChain Apart → (∀ part ∈ front, part.isOperator = true) →
        ruleParts table (sourceOf (front ++ parts)) = front ++ parts := by
  induction parts with
  | nil =>
    intro front hprintable hapart hoperators
    rw [List.append_nil] at hprintable hapart ⊢
    exact ruleParts_operators h hfree hprintable hapart hoperators
  | cons part parts ih =>
    intro front hprintable hapart hoperators
    have hfront : ∀ part ∈ front, Printable table part :=
      fun part hmem => hprintable part (List.mem_append_left _ hmem)
    have hparts : ∀ part ∈ parts, Printable table part :=
      fun part hmem => hprintable part (List.mem_append_right _ (List.mem_cons_of_mem _ hmem))
    have hpart := hprintable part (List.mem_append_right _ List.mem_cons_self)
    have hnext := List.isChain_cons.mp hapart.right_of_append
    have hfrontParts := ruleParts_operators h hfree hfront hapart.left_of_append hoperators
    have hquote : '\'' ∉ sourceOf front :=
      fun hmem => (unmarked_sourceOf hfront hoperators _ hmem).2.2 rfl
    have hback := @ih [] hparts hnext.2 (by simp)
    rw [List.nil_append] at hback
    cases part with
    | other literal => exact absurd hpart id
    | text content =>
      have hend : (sourceOf parts).head? ≠ some '\'' := by
        refine head?_sourceOf_ne_quote h hparts fun part hmem => ?_
        have hapart := (hnext.1 part hmem).1
        simpa [Part.isText] using hapart
      rw [sourceOf_append, sourceOf_cons, ruleParts_literal hquote content hend, hfrontParts, hback]
    | field name =>
      rw [sourceOf_append, sourceOf_cons, ruleParts_field hquote hpart, hfrontParts, hback]
    | operator symbol =>
      have hlonger := @ih (front ++ [.operator symbol])
      rw [List.append_assoc, List.singleton_append] at hlonger
      refine hlonger hprintable hapart fun part hmem => ?_
      rcases List.mem_append.mp hmem with hmem | hmem
      · exact hoperators part hmem
      · obtain rfl := List.mem_singleton.mp hmem
        rfl

end Segment

open Segment in
/-- **Cutting undoes writing.** Of a table none of whose symbols has a parenthesis in it, parts that
stand apart are cut from their text as they were written, whatever the literals hold. -/
theorem OperatorTable.segment_source [MatcherBuilder] {table : OperatorTable}
    (h : table.Reachable) (hfree : ParenFree table) {parts : List Part}
    (hprintable : ∀ part ∈ parts, Printable table part) (hapart : parts.IsChain Apart) :
    table.segment (String.ofList (sourceOf parts)) = parts := by
  rw [segment, String.toList_ofList]
  exact @ruleParts_source table _ h hfree parts [] hprintable hapart (by simp)

open Segment in
/-- Operators, brackets, parentheses and quotes in a literal belong to it. -/
theorem OperatorTable.segment_source_of_marks :
    ParenFree builtin ∧
      builtin.segment "('it''s [a] + (b' and (+[a]'''')" =
        [.operator "(", .text "it's [a] + (b", .operator " and ", .operator "(", .operator "+",
          .field "a", .text "'", .operator ")"] := by
  have hfree : ParenFree builtin := by decide +kernel
  have hparts := @segment_source _ builtin .builtin hfree
    [.operator "(", .text "it's [a] + (b", .operator " and ", .operator "(", .operator "+",
      .field "a", .text "'", .operator ")"] (by decide +kernel) (by decide +kernel)
  have hsource : String.ofList (sourceOf
      [.operator "(", .text "it's [a] + (b", .operator " and ", .operator "(", .operator "+",
        .field "a", .text "'", .operator ")"]) = "('it''s [a] + (b' and (+[a]'''')" := by
    decide +kernel
  rw [hsource] at hparts
  exact ⟨hfree, hparts⟩

end RuleLang
