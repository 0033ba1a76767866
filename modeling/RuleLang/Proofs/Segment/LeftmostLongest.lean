import RuleLang.Operator.MatcherSize
import RuleLang.Proofs.Operator.Bindings
import RuleLang.Proofs.Operator.Signature
import RuleLang.Proofs.Segment.Spaced
import RuleLang.Proofs.Text.Ascii

/-!
# Which symbols are taken out of a text

Of the symbols that a text could be read as, the scan takes the first, and of those at one place the
longest. Main statement: **whatever the symbols of a table are, no symbol begins inside a gap, and
none that begins where something was found is longer** (`operators_leftmost_longest`).

What is found is then looked up, and there the two notions of case meet. They agree on ASCII: then
**all that is found is an operator**, bare literals come from gaps only, and it does not matter in
which casing the table was given its symbols.
-/

set_option autoImplicit false

namespace RuleLang

open Segment

/-- The part of a piece, if all that is found is an operator. -/
def Segment.pieceOperator? : Piece (List Char) → Option Part
  | .found symbol => some (.operator (String.ofList symbol))
  | .gap text => bareLiteral? text

namespace OperatorTable

/-- Whether a text is a symbol of a table, letter case aside, or a parenthesis. -/
def Recognises (table : OperatorTable) (text : List Char) : Prop :=
  (∃ symbol ∈ table.symbols, symbol.toList.map Text.fold = text.map Text.fold) ∨
    text ∈ Matcher.parentheses

/-- Whether pieces are cut where symbols begin. A symbol that begins somewhere is a beginning of the
text from there on, which goes on with the pieces behind. -/
structure LeftmostLongest (table : OperatorTable) (pieces : List (Piece (List Char))) : Prop where
  gap : ∀ {before front back after}, pieces = before ++ .gap (front ++ back) :: after → back ≠ [] →
    ∀ text, text <+: back ++ after.flatMap (Piece.written id) → ¬ table.Recognises text
  found : ∀ {text}, .found text ∈ pieces → table.Recognises text
  longest : ∀ {before text after}, pieces = before ++ .found text :: after →
    ∀ other, other <+: text ++ after.flatMap (Piece.written id) → table.Recognises other →
      other.length ≤ text.length

/-- Whether all symbols of a table are ASCII. -/
def AsciiSymbols (table : OperatorTable) : Prop :=
  ∀ symbol ∈ table.symbols, Text.Ascii symbol.toList

instance (table : OperatorTable) : Decidable table.AsciiSymbols :=
  List.decidableBAll (fun symbol : String => Text.Ascii symbol.toList) table.symbols

variable {table table' : OperatorTable} {text : List Char}

/-! ## What the matcher looks for -/

/-- What a table recognises is what its matcher looks for. -/
theorem recognises_iff [MatcherBuilder] (h : table.Reachable) :
    table.Recognises text ↔ text.map Text.fold ∈ table.currentMatcher.symbols := by
  rw [mem_currentMatcher_iff h, Recognises]
  refine or_congr_right ⟨fun hparen => ?_, fun hparen => ?_⟩
  · rwa [Matcher.map_fold_paren hparen]
  · obtain ⟨c, hc⟩ := Matcher.exists_eq_singleton_of_paren hparen
    have hcaseless : ∀ d ∈ text.map Text.fold, Text.caseless.has d = true := by
      intro d hd
      rw [hc] at hparen hd
      obtain rfl := List.mem_singleton.mp hd
      exact Matcher.has_caseless_of_paren hparen
    rwa [Text.eq_of_map_fold_eq hcaseless (Matcher.map_fold_paren hparen).symm]

/-- **Symbols are taken where they begin first, and the longest of them.** -/
theorem leftmostLongest_pieces [MatcherBuilder] (h : table.Reachable) (text : List Char) :
    table.LeftmostLongest (table.currentMatcher.recogniser.pieces text) where
  gap := by
    intro before front back after hpieces hback spelling hspelling hrecognises
    obtain ⟨rest, hrest⟩ := hspelling
    have hnone := Recogniser.find?_in_gap (Matcher.reads _) text before hpieces hback
    exact Matcher.find?_eq_none_iff.mp hnone spelling rest hrest.symm
      ((recognises_iff h).mp hrecognises)
  found := by
    intro spelling hspelling
    obtain ⟨here, rest, hfind⟩ := Recogniser.exists_find?_of_found_mem (Matcher.reads _) hspelling
    exact (recognises_iff h).mpr (Matcher.eq_of_find? hfind).1
  longest := by
    intro before spelling after hpieces other hother hrecognises
    obtain ⟨rest, hrest⟩ := hother
    have hfind := Recogniser.find?_at_found (Matcher.reads _) text before hpieces
    have hmem := (recognises_iff h).mp hrecognises
    rw [currentMatcher_of_reachable h] at hfind hmem
    exact Matcher.longest_of_find? hfind hmem hrest.symm

/-! ## Where the two notions of case agree -/

/-- An ASCII text that is recognised is known under its key. -/
theorem known_of_recognises [MatcherBuilder] (h : table.Reachable) (hsymbols : table.AsciiSymbols)
    (hascii : Text.Ascii text) (hrecognises : table.Recognises text) :
    text ∈ Matcher.parentheses ∨ table.contains (String.ofList text) = true := by
  rcases hrecognises with ⟨symbol, hmem, hfold⟩ | hparen
  · right
    have hkey : key (String.ofList text) = key symbol := by
      refine Text.lower_of_map_fold_eq ?_ (hsymbols symbol hmem) ?_
      · rwa [String.toList_ofList]
      · rw [String.toList_ofList, hfold]
    rw [contains_eq_isSome, get?_congr hkey, ← contains_eq_isSome]
    exact contains_of_mem_symbols (orderly_of_reachable h) hmem
  · exact .inl hparen

/-- **In an ASCII text all that is found is an operator**, if the symbols are ASCII as well. -/
theorem operatorParts_of_ascii [MatcherBuilder] (h : table.Reachable)
    (hsymbols : table.AsciiSymbols) (hascii : Text.Ascii text) :
    operatorParts table text =
      (table.currentMatcher.recogniser.pieces text).filterMap pieceOperator? := by
  refine List.filterMap_congr fun piece hpiece => ?_
  cases piece with
  | gap gap => rfl
  | found spelling =>
    have hspelling : Text.Ascii spelling :=
      hascii.of_isInfix (Recogniser.isInfix_of_mem_pieces (Matcher.reads _) hpiece)
    have hknown := known_of_recognises h hsymbols hspelling
      ((leftmostLongest_pieces h text).found hpiece)
    rw [operatorPart?, if_pos hknown]
    rfl

/-- **The casing of the symbols does not matter to the matcher**, if in one table they are ASCII. -/
theorem recogniser_of_keys [MatcherBuilder] (h : table.Reachable) (h' : table'.Reachable)
    (hsymbols : table.AsciiSymbols) (hkeys : table.entries.keys = table'.entries.keys) :
    table.currentMatcher.recogniser = table'.currentMatcher.recogniser := by
  have hshared {k : String} : (∃ symbol ∈ table.symbols, key symbol = k) ↔
      ∃ symbol ∈ table'.symbols, key symbol = k := by
    rw [← mem_keys_iff (orderly_of_reachable h), hkeys, mem_keys_iff (orderly_of_reachable h')]
  refine recogniser_congr h h' fun folded => ?_
  rw [mem_currentMatcher_iff h, mem_currentMatcher_iff h']
  refine or_congr_left ⟨fun hsymbol => ?_, fun hsymbol => ?_⟩
  · obtain ⟨symbol, hmem, rfl⟩ := hsymbol
    obtain ⟨symbol', hmem', hkey⟩ := hshared.mp ⟨symbol, hmem, rfl⟩
    exact ⟨symbol', hmem', Text.map_fold_of_lower_eq (hsymbols symbol hmem) hkey⟩
  · obtain ⟨symbol', hmem', rfl⟩ := hsymbol
    obtain ⟨symbol, hmem, hkey⟩ := hshared.mpr ⟨symbol', hmem', rfl⟩
    exact ⟨symbol, hmem, (Text.map_fold_of_lower_eq (hsymbols symbol hmem) hkey.symm).symm⟩

theorem contains_of_keys (hkeys : table.entries.keys = table'.entries.keys) (symbol : String) :
    table.contains symbol = table'.contains symbol := by
  rw [contains, contains, Bool.eq_iff_iff, ← SortedMap.mem_keys_iff, ← SortedMap.mem_keys_iff,
    hkeys]

/-! ## The main statement -/

/-- **Operators are found leftmost and longest.** The pieces of a text are the text. No symbol and
no parenthesis begins at a place in a gap; what is found is a symbol, letter case aside, or a
parenthesis; and no symbol that begins at the same place is longer. If the symbols of the table are
ASCII, then in an ASCII text all that is found becomes an operator, so that bare literals come from
gaps only; and a table that was given the same symbols in other casings cuts every text, and every
rule, into the same parts. -/
theorem operators_leftmost_longest [MatcherBuilder] (h : table.Reachable) (text : List Char) :
    (table.currentMatcher.recogniser.pieces text).flatMap (Piece.written id) = text ∧
    table.LeftmostLongest (table.currentMatcher.recogniser.pieces text) ∧
    (table.AsciiSymbols →
      (Text.Ascii text → operatorParts table text =
        (table.currentMatcher.recogniser.pieces text).filterMap pieceOperator?) ∧
      ∀ table' : OperatorTable, table'.Reachable → table.entries.keys = table'.entries.keys →
        operatorParts table text = operatorParts table' text ∧
          ∀ rule, table.segment rule = table'.segment rule) := by
  refine ⟨Recogniser.flatMap_written_pieces (Matcher.reads _) text, leftmostLongest_pieces h text,
    fun hsymbols => ⟨operatorParts_of_ascii h hsymbols, fun table' h' hkeys => ?_⟩⟩
  have hmatcher := recogniser_of_keys h h' hsymbols hkeys
  have hcontains := contains_of_keys hkeys
  exact ⟨operatorParts_of_recogniser hmatcher hcontains text,
    segment_of_recogniser hmatcher hcontains⟩

/-- `!=` is found where `!` is a symbol too, and ` AND ` where ` and ` is; the symbol ` And ` in its
place finds the same. -/
theorem operators_leftmost_longest_of_marks :
    ∃ table table' : OperatorTable,
      builtin.insert "!" ⟨0, Operator.add⟩ = .ok table ∧
      table.insert " And " ⟨2, Operator.both⟩ = .ok table' ∧
      let pieces := table.currentMatcher.recogniser.pieces "a!=b AND c!(".toList
      pieces = [.gap ['a'], .found ['!', '='], .gap ['b'], .found " AND ".toList, .gap ['c'],
        .found ['!'], .found ['(']] ∧
      table.LeftmostLongest pieces ∧
      operatorParts table "a!=b AND c!(".toList = pieces.filterMap pieceOperator? ∧
      ∀ rule, table.segment rule = table'.segment rule := by
  obtain ⟨table, htable⟩ : ∃ table, builtin.insert "!" ⟨0, Operator.add⟩ = .ok table :=
    ⟨_, insert_eq_ok_iff.mpr ⟨by decide, rfl⟩⟩
  obtain ⟨table', htable'⟩ : ∃ table', table.insert " And " ⟨2, Operator.both⟩ = .ok table' :=
    ⟨_, insert_eq_ok_iff.mpr ⟨by decide, rfl⟩⟩
  have h : table.Reachable := .step .builtin (.insert _ _ htable)
  have h' : table'.Reachable := .step h (.insert _ _ htable')
  obtain ⟨-, hpieces, hascii⟩ := operators_leftmost_longest h "a!=b AND c!(".toList
  refine ⟨table, table', htable, htable', ?_⟩
  obtain ⟨-, rfl⟩ := insert_eq_ok_iff.mp htable
  obtain ⟨-, rfl⟩ := insert_eq_ok_iff.mp htable'
  obtain ⟨hparts, hcasing⟩ := hascii (by decide +kernel)
  exact ⟨by decide +kernel, hpieces, hparts (by decide +kernel),
    (hcasing _ h' (by decide +kernel)).2⟩

end OperatorTable

end RuleLang
