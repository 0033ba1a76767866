import Mathlib.Algebra.Ring.Parity
import RuleLang.Proofs.Segment.Spaced

/-!
# Quotes pair up

A literal may be cut short to be closed at all, but never so that more than the last quote of the
text is left over. Main statement: **no quote stands outside of the literals of a rule if their
number is even, and only the last one does if it is odd** (`quotes_pair_up`).

The parity is that of the literals, whose quotes come in pairs. That there is no second one left
over is because a quote opens no literal only if no other follows it (`closeQuote_eq_none_iff`).
-/

set_option autoImplicit false

namespace RuleLang

namespace Part

/-- Whether a part is a literal in quotes. -/
def isQuoted : Part → Bool
  | text _ => true
  | _ => false

/-- How many quotes stand in the sources of parts that are not literals. -/
def strayQuotes (parts : List Part) : Nat :=
  ((parts.filter (!·.isQuoted)).flatMap source).count '\''

variable {parts parts' : List Part} {part : Part}

@[simp] theorem strayQuotes_nil : strayQuotes [] = 0 := rfl

@[simp] theorem strayQuotes_append :
    strayQuotes (parts ++ parts') = strayQuotes parts + strayQuotes parts' := by
  simp [strayQuotes]

theorem strayQuotes_cons (h : part.isQuoted = false) :
    strayQuotes (part :: parts) = part.source.count '\'' + strayQuotes parts := by
  simp [strayQuotes, h]

theorem strayQuotes_of_unquoted (h : ∀ part ∈ parts, part.isQuoted = false) :
    strayQuotes parts = (parts.flatMap source).count '\'' := by
  rw [strayQuotes, List.filter_eq_self.mpr fun part hpart => by simp [h part hpart]]

theorem notMem_source_of_strayQuotes (hzero : strayQuotes parts = 0) (hmem : part ∈ parts)
    (h : part.isQuoted = false) : '\'' ∉ part.source := by
  intro hquote
  obtain ⟨before, after, rfl⟩ := List.append_of_mem hmem
  rw [strayQuotes_append, strayQuotes_cons h] at hzero
  have hpos := List.count_pos_iff.mpr hquote
  omega

end Part

namespace Segment

/-! ## Literals -/

theorem count_doubleQuotes (cs : List Char) :
    (Part.doubleQuotes cs).count '\'' = 2 * cs.count '\'' := by
  induction cs with
  | nil => rfl
  | cons c cs ih =>
    rw [doubleQuotes_cons, List.count_append, ih]
    by_cases hc : c = '\''
    · simp [hc]
      omega
    · simp [hc]

/-- The quotes of a literal come in pairs: those at its ends, and those inside it. -/
theorem even_count_source (content : String) :
    Even ((Part.text content).source.count '\'') := by
  refine ⟨content.toList.count '\'' + 1, ?_⟩
  simp only [Part.source, List.cons_append, List.count_cons, List.count_append,
    count_doubleQuotes, List.count_nil, beq_self_eq_true, if_true]
  omega

/-- **A literal is closed by any quote that follows**: the last one if need be. -/
theorem closeQuote_eq_none_iff (text : List Char) : closeQuote text = none ↔ '\'' ∉ text := by
  fun_induction closeQuote text with
  | case1 => simp
  | case2 => simp
  | case3 => simp
  | case4 => simp
  | case5 c rest hpair hquote ih =>
    rw [Option.map_eq_none_iff, ih, List.mem_cons]
    simp [Ne.symm hquote]

/-! ## Outside of literals -/

/-- The text of the gaps among pieces. -/
def gapText {α : Type} (pieces : List (Piece α)) : List Char :=
  pieces.flatMap fun
    | .gap text => text
    | .found _ => []

/-- The literal of a piece, if it is one. -/
def literal? : Piece (List Char) → Option Part
  | .found content => some (.text (String.ofList content))
  | .gap _ => none

variable {pieces : List (Piece (List Char))}

theorem gapText_extendGap (c : Char) (pieces : List (Piece (List Char))) :
    gapText (extendGap c pieces) = c :: gapText pieces := by
  unfold extendGap
  split <;> simp [gapText]

theorem extendGap_append_singleton (c : Char) {before : List (Piece (List Char))}
    (hne : before ≠ []) (piece : Piece (List Char)) :
    extendGap c (before ++ [piece]) = extendGap c before ++ [piece] := by
  cases before with
  | nil => exact absurd rfl hne
  | cons first before => cases first <;> rfl

/-- Of the quotes in the gaps there is none, or only one, behind which no quote and no literal
comes. -/
inductive AtMostLast : List (Piece (List Char)) → Prop
  | none {pieces : List (Piece (List Char))} : '\'' ∉ gapText pieces → AtMostLast pieces
  | last {before : List (Piece (List Char))} {front back : List Char} :
      '\'' ∉ gapText before → '\'' ∉ front → '\'' ∉ back →
        AtMostLast (before ++ [.gap (front ++ '\'' :: back)])

theorem AtMostLast.extendGap {c : Char} (h : AtMostLast pieces) (hc : c ≠ '\'') :
    AtMostLast (extendGap c pieces) := by
  cases h with
  | none hnone =>
    refine .none ?_
    rw [gapText_extendGap, List.mem_cons, not_or]
    exact ⟨hc.symm, hnone⟩
  | @last before front back hbefore hfront hback =>
    by_cases hne : before = []
    · subst hne
      have hfront' : '\'' ∉ c :: front := by
        rw [List.mem_cons, not_or]
        exact ⟨hc.symm, hfront⟩
      exact @AtMostLast.last [] (c :: front) back hbefore hfront' hback
    · rw [extendGap_append_singleton c hne]
      refine .last ?_ hfront hback
      rw [gapText_extendGap, List.mem_cons, not_or]
      exact ⟨hc.symm, hbefore⟩

/-- **Of the quotes of a text, at most the last one is in no literal.** -/
theorem atMostLast_pieces (text : List Char) : AtMostLast (quoted.pieces text) := by
  induction text using Recogniser.pieces_induction (r := quoted) with
  | nil => exact .none (by simp [gapText])
  | found text content rest hfind ih =>
    rw [Recogniser.pieces_of_found hfind]
    generalize quoted.pieces rest = pieces at ih
    cases ih with
    | none hnone => exact .none hnone
    | @last before front back hbefore hfront hback =>
      exact @AtMostLast.last (.found content :: before) front back hbefore hfront hback
  | gap c cs hfind ih =>
    by_cases hc : c = '\''
    · subst hc
      -- A quote that opens no literal has no other quote behind it, so the gap is all there is.
      have hlast : '\'' ∉ cs := (closeQuote_eq_none_iff cs).mp hfind
      have hnothing : ∀ tail, tail <:+ '\'' :: cs → tail ≠ [] → quoted.find? tail = none := by
        intro tail htail hne
        rcases List.suffix_cons_iff.mp htail with rfl | htail
        · exact hfind
        · cases tail with
          | nil => exact absurd rfl hne
          | cons d tail =>
            refine quoted?_of_ne ?_ tail
            rintro rfl
            exact hlast (htail.subset (List.mem_cons_self ..))
      rw [Recogniser.pieces_of_nothing (by simp) hnothing]
      exact @AtMostLast.last [] [] cs (by simp [gapText]) (by simp) hlast
    · rw [Recogniser.pieces_of_none hfind]
      exact ih.extendGap hc

/-- The quotes in the gaps are those of the text, but for the pairs of the literals. -/
theorem count_gapText_mod_two (text : List Char) :
    (gapText (quoted.pieces text)).count '\'' % 2 = text.count '\'' % 2 := by
  induction text using Recogniser.pieces_induction (r := quoted) with
  | nil => simp [gapText]
  | found text content rest hfind ih =>
    obtain ⟨pairs, hpairs⟩ := even_count_source (String.ofList content)
    rw [Recogniser.pieces_of_found hfind, quoted_reads hfind, List.count_append, hpairs]
    change (gapText (quoted.pieces rest)).count '\'' % 2 = _
    omega
  | gap c cs hfind ih =>
    rw [Recogniser.pieces_of_none hfind, gapText_extendGap, List.count_cons, List.count_cons]
    omega

theorem AtMostLast.count_le_one (h : AtMostLast pieces) :
    (gapText pieces).count '\'' ≤ 1 := by
  cases h with
  | none hnone => simp [List.count_eq_zero.mpr hnone]
  | @last before front back hbefore hfront hback =>
    have hcount : (gapText (before ++ [.gap (front ++ '\'' :: back)])).count '\'' =
        (gapText before ++ (front ++ '\'' :: back)).count '\'' := by
      simp [gapText]
    rw [hcount]
    simp [List.count_eq_zero.mpr hbefore, List.count_eq_zero.mpr hfront,
      List.count_eq_zero.mpr hback]

/-- One quote is left over if their number is odd, and none if it is even. -/
theorem count_gapText (text : List Char) :
    (gapText (quoted.pieces text)).count '\'' = text.count '\'' % 2 := by
  have hle := (atMostLast_pieces text).count_le_one
  have hparity := count_gapText_mod_two text
  omega

/-! ## Among the parts -/

variable {table : OperatorTable} {text : List Char} {part : Part}

/-- A character that is no blank is in the sources of the parts as often as in the text. -/
theorem Spaced.count_eq {parts : List Part} {c : Char} (h : Spaced parts text)
    (hc : Text.isBlank c = false) : (parts.flatMap Part.source).count c = text.count c := by
  have hnone {blanks : List Char} (hblanks : ∀ d ∈ blanks, Text.isBlank d = true) :
      blanks.count c = 0 := by
    refine List.count_eq_zero.mpr fun hmem => ?_
    exact absurd (hblanks c hmem) (by simp [hc])
  induction h with
  | blanks hblanks => simp [hnone hblanks]
  | part hblanks _ ih =>
    rw [List.flatMap_cons, List.count_append, List.count_append, List.count_append, ih,
      hnone hblanks, Nat.zero_add]

theorem isQuoted_of_bareLiteral? (h : bareLiteral? text = some part) : part.isQuoted = false := by
  obtain ⟨_, rfl⟩ := bareLiteral?_eq_some_iff.mp h
  rfl

theorem isQuoted_of_mem_fieldParts (h : part ∈ fieldParts table text) :
    part.isQuoted = false := by
  obtain ⟨piece, _, hpart⟩ := List.mem_flatMap.mp h
  cases piece with
  | found name =>
    obtain rfl := List.mem_singleton.mp hpart
    rfl
  | gap gap =>
    obtain ⟨piece, _, hpart⟩ := List.mem_filterMap.mp hpart
    cases piece with
    | gap text => exact isQuoted_of_bareLiteral? hpart
    | found symbol =>
      rw [operatorPart?] at hpart
      split at hpart
      · obtain rfl := Option.some.inj hpart
        rfl
      · exact isQuoted_of_bareLiteral? hpart

theorem strayQuotes_fieldParts (text : List Char) :
    Part.strayQuotes (fieldParts table text) = text.count '\'' := by
  rw [Part.strayQuotes_of_unquoted fun part => isQuoted_of_mem_fieldParts]
  exact (spaced_fieldParts text).count_eq (by decide)

/-- The parts that a piece is cut into. -/
def partsOfPiece (table : OperatorTable) : Piece (List Char) → List Part
  | .found content => [.text (String.ofList content)]
  | .gap text => fieldParts table text

theorem ruleParts_eq (text : List Char) :
    ruleParts table text = (quoted.pieces text).flatMap (partsOfPiece table) := by
  refine List.flatMap_congr fun piece _ => ?_
  cases piece <;> rfl

/-- No quote of a gap is lost. -/
theorem strayQuotes_flatMap (pieces : List (Piece (List Char))) :
    Part.strayQuotes (pieces.flatMap (partsOfPiece table)) = (gapText pieces).count '\'' := by
  induction pieces with
  | nil => rfl
  | cons piece pieces ih =>
    rw [List.flatMap_cons, Part.strayQuotes_append, ih]
    cases piece with
    | found content => simp [partsOfPiece, gapText, Part.strayQuotes, Part.isQuoted]
    | gap text => simp [partsOfPiece, gapText, strayQuotes_fieldParts]

/-- The literals among the parts are those that were cut out. -/
theorem filter_isQuoted_ruleParts (text : List Char) :
    (ruleParts table text).filter Part.isQuoted = (quoted.pieces text).filterMap literal? := by
  rw [ruleParts_eq, List.filter_flatMap, List.filterMap_eq_flatMap_toList]
  refine List.flatMap_congr fun piece _ => ?_
  cases piece with
  | found content => rfl
  | gap text =>
    refine List.filter_eq_nil_iff.mpr fun part hpart => ?_
    simp [isQuoted_of_mem_fieldParts hpart]

/-- Where two lists are one, what begins with a member that the first part of the one does not have
is an ending of its second part. -/
theorem suffix_of_notMem {front rest before after : List Part}
    (h : front ++ rest = before ++ part :: after) (hpart : part ∉ front) :
    part :: after <:+ rest := by
  rcases List.append_eq_append_iff.mp h with ⟨middle, _, hrest⟩ | ⟨middle, hfront, hafter⟩
  · exact hrest ▸ List.suffix_append middle _
  · cases middle with
    | nil => exact hafter ▸ List.suffix_refl _
    | cons first middle =>
      obtain ⟨rfl, _⟩ := List.cons.inj hafter
      exact absurd (by simp [hfront]) hpart

/-- A quote that belongs to no literal is in a part of the last gap, so no literal is behind it. -/
theorem isQuoted_of_behind (h : AtMostLast pieces) {before after : List Part}
    (hparts : pieces.flatMap (partsOfPiece table) = before ++ part :: after)
    (hpart : part.isQuoted = false) (hquote : '\'' ∈ part.source) :
    ∀ other ∈ after, other.isQuoted = false := by
  cases h with
  | none hnone =>
    have hzero : Part.strayQuotes (pieces.flatMap (partsOfPiece table)) = 0 := by
      rw [strayQuotes_flatMap, List.count_eq_zero.mpr hnone]
    exact absurd hquote
      (Part.notMem_source_of_strayQuotes hzero (by simp [hparts]) hpart)
  | @last front gapFront gapBack hfront _ _ =>
    have hzero : Part.strayQuotes (front.flatMap (partsOfPiece table)) = 0 := by
      rw [strayQuotes_flatMap, List.count_eq_zero.mpr hfront]
    rw [List.flatMap_append, List.flatMap_singleton] at hparts
    have hsuffix : part :: after <:+ fieldParts table (gapFront ++ '\'' :: gapBack) :=
      suffix_of_notMem hparts fun hmem =>
        Part.notMem_source_of_strayQuotes hzero hmem hpart hquote
    intro other hother
    exact isQuoted_of_mem_fieldParts (hsuffix.subset (List.mem_cons_of_mem part hother))

end Segment

/-! ## The main statement -/

open Segment in
/-- **Quotes pair up.** A rule is cut into literals and the gaps between them, and the literals are
the quoted parts of the rule. If the number of quotes is even, none is in a gap; if it is odd, one
is, in the last piece, and it is the last quote of the rule. As no quote of a gap is lost, just as
many are in the sources of the other parts; so if one of these has a quote in it, then it is the
only one, the number of quotes is odd, and no part behind it has a quote. -/
theorem OperatorTable.quotes_pair_up (table : OperatorTable) (rule : String) :
    let pieces := quoted.pieces rule.toList
    let quotes := rule.toList.count '\''
    pieces.flatMap (Piece.written fun content => (Part.text (String.ofList content)).source) =
      rule.toList ∧
    (table.segment rule).filter Part.isQuoted = pieces.filterMap literal? ∧
    (Even quotes → '\'' ∉ gapText pieces) ∧
    (Odd quotes → ∃ before front back, pieces = before ++ [.gap (front ++ '\'' :: back)] ∧
      '\'' ∉ gapText before ∧ '\'' ∉ front ∧ '\'' ∉ back) ∧
    Part.strayQuotes (table.segment rule) = quotes % 2 ∧
    ∀ before part after, table.segment rule = before ++ part :: after →
      part.isQuoted = false → '\'' ∈ part.source →
        Odd quotes ∧ part.source.count '\'' = 1 ∧ Part.strayQuotes before = 0 ∧
          ∀ other ∈ after, '\'' ∉ other.source := by
  intro pieces quotes
  have hlast : AtMostLast pieces := atMostLast_pieces rule.toList
  have hcount : (gapText pieces).count '\'' = quotes % 2 := count_gapText rule.toList
  have hparts : table.segment rule = pieces.flatMap (partsOfPiece table) := ruleParts_eq rule.toList
  have hstray : Part.strayQuotes (table.segment rule) = quotes % 2 := by
    rw [hparts, strayQuotes_flatMap, hcount]
  refine ⟨Recogniser.flatMap_written_pieces quoted_reads rule.toList,
    filter_isQuoted_ruleParts rule.toList, ?_, ?_, hstray, ?_⟩
  · intro heven
    rw [Nat.even_iff.mp heven] at hcount
    exact List.count_eq_zero.mp hcount
  · intro hodd
    rw [Nat.odd_iff.mp hodd] at hcount
    generalize pieces = pieces at hlast hcount
    cases hlast with
    | none hnone =>
      rw [List.count_eq_zero.mpr hnone] at hcount
      exact absurd hcount (by simp)
    | @last before front back hbefore hfront hback =>
      exact ⟨before, front, back, rfl, hbefore, hfront, hback⟩
  · intro before part after hsegment hpart hquote
    have hpos := List.count_pos_iff.mpr hquote
    rw [hsegment, Part.strayQuotes_append, Part.strayQuotes_cons hpart] at hstray
    have hafter : Part.strayQuotes after = 0 := by omega
    refine ⟨Nat.odd_iff.mpr (by omega), by omega, by omega, fun other hother => ?_⟩
    exact Part.notMem_source_of_strayQuotes hafter hother
      (isQuoted_of_behind hlast (hparts.symm.trans hsegment) hpart hquote other hother)

open Segment in
/-- The last of an odd number of quotes stays in the name of a field. Where the last literal does
not end, its doubled quote is taken apart: the second half of it stays in a bare word. -/
theorem OperatorTable.quotes_pair_up_of_strays :
    builtin.segment "[a] = 'it''s' or [b's] = c" =
        [.field "a", .operator "=", .text "it's", .operator " or ", .field "b's", .operator "=",
          .other "c"] ∧
      builtin.segment "'x''y" = [.text "x", .other "'y"] ∧
      Odd ("[a] = 'it''s' or [b's] = c".toList.count '\'') ∧
      Part.strayQuotes (builtin.segment "[a] = 'it''s' or [b's] = c") = 1 ∧
      (∀ other ∈ [Part.operator "=", .other "c"], '\'' ∉ other.source) := by
  have hsegment : builtin.segment "[a] = 'it''s' or [b's] = c" =
      [.field "a", .operator "=", .text "it's", .operator " or "] ++
        .field "b's" :: [.operator "=", .other "c"] := by decide +kernel
  obtain ⟨_, _, _, _, hstray, hbehind⟩ := quotes_pair_up builtin "[a] = 'it''s' or [b's] = c"
  obtain ⟨hodd, _, _, hafter⟩ := hbehind _ _ _ hsegment rfl (by decide)
  rw [Nat.odd_iff.mp hodd] at hstray
  exact ⟨hsegment, by decide +kernel, hodd, hstray, hafter⟩

end RuleLang
