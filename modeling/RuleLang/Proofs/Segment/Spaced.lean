import RuleLang.Operator.MatcherSize
import Mathlib.Data.List.Basic
import RuleLang.Proofs.Operator.Entries
import RuleLang.Proofs.Segment.Marks
import RuleLang.Proofs.Segment.Operators

/-!
# Cutting loses nothing but blanks

A rule can be had back from its parts, up to the blanks around them: **it is made of the sources of
its parts, in their order, with blanks before, between and after them**. That is shown pass by pass,
and each pass only has to say it of a single piece, because a scan loses nothing.

What a part may be is said beside it (`WellCut`). The one case with an argument is that a bare
literal is never a lone parenthesis. A gap has none in it, because the matcher would have found it
(`notMem_parentheses_of_mem_gap`). A symbol that was found but is not in the table is not one with
blanks around it either, because a symbol without letters is found as the table spells it
(`contains_of_found`).
-/

set_option autoImplicit false

namespace RuleLang.Segment

/-- A text made of the sources of some parts, with blanks before, between and after them. -/
inductive Spaced : List Part → List Char → Prop
  | blanks {text : List Char} : (∀ c ∈ text, Text.isBlank c = true) → Spaced [] text
  | part {blanks after : List Char} {part : Part} {parts : List Part} :
      (∀ c ∈ blanks, Text.isBlank c = true) → Spaced parts after →
        Spaced (part :: parts) (blanks ++ part.source ++ after)

namespace Spaced

variable {parts parts' : List Part} {text text' blanks : List Char}

theorem prepend (hblanks : ∀ c ∈ blanks, Text.isBlank c = true) (h : Spaced parts text) :
    Spaced parts (blanks ++ text) := by
  have hboth {more : List Char} (hmore : ∀ c ∈ more, Text.isBlank c = true) :
      ∀ c ∈ blanks ++ more, Text.isBlank c = true := by
    intro c hc
    exact (List.mem_append.mp hc).elim (hblanks c) (hmore c)
  cases h with
  | blanks hmore => exact .blanks (hboth hmore)
  | part hmore hafter =>
    rw [← List.append_assoc, ← List.append_assoc]
    exact .part (hboth hmore) hafter

theorem append (h : Spaced parts text) (h' : Spaced parts' text') :
    Spaced (parts ++ parts') (text ++ text') := by
  induction h with
  | blanks hblanks => exact h'.prepend hblanks
  | part hblanks _ ih =>
    rw [List.append_assoc]
    exact .part hblanks ih

/-- What a part was cut from stands in the text. -/
theorem isInfix_source (h : Spaced parts text) : ∀ part ∈ parts, part.source <:+: text := by
  induction h with
  | blanks _ => simp
  | part _ _ ih =>
    intro part hpart
    rcases List.mem_cons.mp hpart with rfl | hpart
    · exact ⟨_, _, rfl⟩
    · exact (ih part hpart).trans (List.suffix_append _ _).isInfix

theorem source (part : Part) : Spaced [part] part.source := by
  have h : Spaced [part] ([] ++ part.source ++ []) := .part (by simp) (.blanks (by simp))
  simpa using h

theorem flatMap {α : Type} {pieces : List α} {partsOf : α → List Part} {textOf : α → List Char}
    (h : ∀ piece, Spaced (partsOf piece) (textOf piece)) :
    Spaced (pieces.flatMap partsOf) (pieces.flatMap textOf) := by
  induction pieces with
  | nil => exact .blanks (by simp)
  | cons piece pieces ih =>
    rw [List.flatMap_cons, List.flatMap_cons]
    exact (h piece).append ih

/-- A pass over a text loses nothing if it loses nothing of any piece. -/
theorem of_pieces {α : Type} {r : Recogniser α} {write : α → List Char} (hreads : r.Reads write)
    {partsOf : Piece α → List Part} (h : ∀ piece, Spaced (partsOf piece) (piece.written write))
    (text : List Char) : Spaced ((r.pieces text).flatMap partsOf) text := by
  have hspaced := @Spaced.flatMap _ (r.pieces text) _ _ h
  rwa [Recogniser.flatMap_written_pieces hreads] at hspaced

end Spaced

/-! ## The passes -/

variable {table : OperatorTable}

theorem bareLiteral?_eq_some_iff {text : List Char} {part : Part} :
    bareLiteral? text = some part ↔
      Text.trimmed text ≠ [] ∧ part = .other (String.ofList (Text.trimmed text)) := by
  unfold bareLiteral?
  split
  · next hnil => simp [hnil]
  · next hne =>
    constructor
    · intro h
      exact ⟨hne, (Option.some.inj h).symm⟩
    · rintro ⟨_, rfl⟩
      rfl

theorem spaced_bareLiteral? (text : List Char) : Spaced (bareLiteral? text).toList text := by
  obtain ⟨before, after, hbefore, hafter, heq⟩ := Text.exists_append_trimmed text
  cases hliteral : bareLiteral? text with
  | none =>
    have hnil : Text.trimmed text = [] := by
      unfold bareLiteral? at hliteral
      split at hliteral
      · next hnil => exact hnil
      · exact absurd hliteral (by simp)
    rw [hnil, List.append_nil] at heq
    rw [heq]
    exact (Spaced.blanks hafter).prepend hbefore
  | some part =>
    obtain ⟨_, rfl⟩ := bareLiteral?_eq_some_iff.mp hliteral
    have hspaced : Spaced [.other (String.ofList (Text.trimmed text))]
        (before ++ Part.source (.other (String.ofList (Text.trimmed text))) ++ after) :=
      .part hbefore (.blanks hafter)
    rw [Part.source, String.toList_ofList, ← heq] at hspaced
    exact hspaced

theorem spaced_operatorPart? (piece : Piece (List Char)) :
    Spaced (operatorPart? table piece).toList (piece.written id) := by
  cases piece with
  | gap text => exact spaced_bareLiteral? text
  | found symbol =>
    rw [operatorPart?]
    split
    · have hspaced := Spaced.source (.operator (String.ofList symbol))
      rw [Part.source, String.toList_ofList] at hspaced
      exact hspaced
    · exact spaced_bareLiteral? symbol

theorem spaced_operatorParts (text : List Char) : Spaced (operatorParts table text) text := by
  rw [operatorParts, List.filterMap_eq_flatMap_toList]
  exact .of_pieces (Matcher.reads _) spaced_operatorPart? text

theorem spaced_fieldParts (text : List Char) : Spaced (fieldParts table text) text := by
  refine .of_pieces bracketed_reads (fun piece => ?_) text
  cases piece with
  | gap text => exact spaced_operatorParts text
  | found name => exact .source _

theorem spaced_ruleParts (text : List Char) : Spaced (ruleParts table text) text := by
  refine .of_pieces quoted_reads (fun piece => ?_) text
  cases piece with
  | gap text => exact spaced_fieldParts text
  | found content => exact .source _

/-! ## What a part may be -/

/-- The text of a bare literal is not empty, has no blank at its ends, and is no parenthesis. -/
structure Bare (literal : String) : Prop where
  nonempty : literal ≠ ""
  head : ∀ {c}, literal.toList.head? = some c → Text.isBlank c = false
  last : ∀ {c}, literal.toList.getLast? = some c → Text.isBlank c = false
  noParen : literal.toList ∉ Matcher.parentheses

/-- What a part can be that was cut from a rule: a field has no bracket in its name, and an
operator is a parenthesis or in the table. -/
def WellCut (table : OperatorTable) : Part → Prop
  | .text _ => True
  | .field name => ∀ c ∈ name.toList, c ≠ '[' ∧ c ≠ ']'
  | .operator symbol => Part.parenOf? symbol ≠ none ∨ table.contains symbol = true
  | .other literal => Bare literal

/-- No parenthesis is left in a gap: it would have been found. -/
theorem notMem_parentheses_of_mem_gap [MatcherBuilder] (h : table.Reachable)
    {text gap : List Char} (hgap : .gap gap ∈ table.currentMatcher.recogniser.pieces text)
    {c : Char} (hc : c ∈ gap) :
    [c] ∉ Matcher.parentheses := by
  intro hparen
  obtain ⟨front, back, rfl⟩ := List.append_of_mem hc
  obtain ⟨before, after, hpieces⟩ := List.append_of_mem hgap
  have hnone := Recogniser.find?_in_gap (Matcher.reads _) text before hpieces (by simp)
  refine Matcher.find?_eq_none_iff.mp hnone [c] _ rfl ?_
  rw [OperatorTable.mem_currentMatcher_iff h, Matcher.map_fold_paren hparen]
  exact .inr hparen

/-- A symbol without letters is found as the table spells it. -/
theorem contains_of_found [MatcherBuilder] (h : table.Reachable) {text symbol : List Char}
    (hfound : .found symbol ∈ table.currentMatcher.recogniser.pieces text)
    (hcaseless : ∀ c ∈ symbol, Text.caseless.has c = true) :
    symbol ∈ Matcher.parentheses ∨ table.contains (String.ofList symbol) = true := by
  obtain ⟨here, rest, hfind⟩ := Recogniser.exists_find?_of_found_mem (Matcher.reads _) hfound
  have hmem := (Matcher.eq_of_find? hfind).1
  rcases (OperatorTable.mem_currentMatcher_iff h).mp hmem with ⟨spelling, hspelling, hfold⟩ | hparen
  · obtain rfl := Text.eq_of_map_fold_eq hcaseless hfold
    right
    rw [String.ofList_toList]
    exact OperatorTable.contains_of_mem_symbols (OperatorTable.orderly_of_reachable h) hspelling
  · rw [Text.eq_of_map_fold_eq hcaseless (Matcher.map_fold_paren hparen)] at hparen
    exact .inl hparen

theorem wellCut_of_bareLiteral? {text : List Char} {part : Part}
    (h : bareLiteral? text = some part) (hparen : Text.trimmed text ∉ Matcher.parentheses) :
    WellCut table part := by
  obtain ⟨hne, rfl⟩ := bareLiteral?_eq_some_iff.mp h
  constructor
  · simpa using hne
  · rw [String.toList_ofList]
    exact Text.isBlank_head?_trimmed
  · rw [String.toList_ofList]
    exact Text.isBlank_getLast?_trimmed
  · rwa [String.toList_ofList]

/-- Of a parenthesis with blanks around it, every character is without case. -/
theorem caseless_of_trimmed {text : List Char} (h : Text.trimmed text ∈ Matcher.parentheses)
    {c : Char} (hc : c ∈ text) : Text.caseless.has c = true := by
  obtain ⟨before, after, hbefore, hafter, heq⟩ := Text.exists_append_trimmed text
  obtain ⟨d, hd⟩ := Matcher.exists_eq_singleton_of_paren h
  rw [hd] at h heq
  rw [heq, List.mem_append, List.mem_append, List.mem_singleton] at hc
  rcases hc with (hc | rfl) | hc
  · exact Text.has_caseless_of_isBlank (hbefore c hc)
  · exact Matcher.has_caseless_of_paren h
  · exact Text.has_caseless_of_isBlank (hafter c hc)

theorem wellCut_of_mem_operatorParts [MatcherBuilder] (h : table.Reachable) {text : List Char}
    {part : Part} (hmem : part ∈ operatorParts table text) : WellCut table part := by
  obtain ⟨piece, hpiece, hpart⟩ := List.mem_filterMap.mp hmem
  cases piece with
  | gap gap =>
    refine wellCut_of_bareLiteral? hpart fun hparen => ?_
    obtain ⟨before, after, _, _, heq⟩ := Text.exists_append_trimmed gap
    obtain ⟨c, hc⟩ := Matcher.exists_eq_singleton_of_paren hparen
    rw [hc] at hparen heq
    exact notMem_parentheses_of_mem_gap h hpiece (by simp [heq]) hparen
  | found symbol =>
    rw [operatorPart?] at hpart
    split at hpart
    · next hknown =>
      obtain rfl := Option.some.inj hpart
      exact hknown.imp_left parenOf?_of_mem_parentheses
    · next hunknown =>
      refine wellCut_of_bareLiteral? hpart fun hparen => ?_
      exact hunknown (contains_of_found h hpiece fun c => caseless_of_trimmed hparen)

theorem wellCut_of_mem_fieldParts [MatcherBuilder] (h : table.Reachable) {text : List Char}
    {part : Part} (hmem : part ∈ fieldParts table text) : WellCut table part := by
  obtain ⟨piece, hpiece, hpart⟩ := List.mem_flatMap.mp hmem
  cases piece with
  | gap gap => exact wellCut_of_mem_operatorParts h hpart
  | found name =>
    obtain rfl := List.mem_singleton.mp hpart
    obtain ⟨_, _, hfind⟩ := Recogniser.exists_find?_of_found_mem bracketed_reads hpiece
    rw [WellCut, String.toList_ofList]
    exact (eq_of_bracketed? hfind).2

theorem wellCut_of_mem_ruleParts [MatcherBuilder] (h : table.Reachable) {text : List Char}
    {part : Part} (hmem : part ∈ ruleParts table text) : WellCut table part := by
  obtain ⟨piece, _, hpart⟩ := List.mem_flatMap.mp hmem
  cases piece with
  | gap gap => exact wellCut_of_mem_fieldParts h hpart
  | found content =>
    obtain rfl := List.mem_singleton.mp hpart
    exact trivial

end RuleLang.Segment

namespace RuleLang.OperatorTable

open Segment in
/-- **Cutting a rule loses nothing but blanks.** The rule is made of the sources of its parts, in
their order, with blanks before, between and after them. Every operator among the parts is a
parenthesis or in the table, no field has a bracket in its name, and a bare literal is not empty,
has no blank at its ends and is no parenthesis. -/
theorem segment_loses_nothing [MatcherBuilder] {table : OperatorTable} (h : table.Reachable)
    (rule : String) :
    Spaced (table.segment rule) rule.toList ∧
      ∀ part ∈ table.segment rule, WellCut table part :=
  ⟨spaced_ruleParts rule.toList, fun _ => wellCut_of_mem_ruleParts h⟩

open Segment in
/-- Brackets and quotes that are not one of a pair are characters like any others. -/
theorem segment_loses_nothing_of_strays :
    builtin.segment "[a]] + (it's) " =
        [.field "a", .other "]", .operator "+", .operator "(", .other "it's", .operator ")"] ∧
      Spaced [.field "a", .other "]", .operator "+", .operator "(", .other "it's", .operator ")"]
        "[a]] + (it's) ".toList ∧
      ∀ part ∈ builtin.segment "[a]] + (it's) ", WellCut builtin part := by
  have hsegment : builtin.segment "[a]] + (it's) " =
      [.field "a", .other "]", .operator "+", .operator "(", .other "it's", .operator ")"] := by
    decide +kernel
  obtain ⟨hspaced, hparts⟩ := segment_loses_nothing .builtin "[a]] + (it's) "
  refine ⟨hsegment, ?_, hparts⟩
  rwa [hsegment] at hspaced

end RuleLang.OperatorTable
