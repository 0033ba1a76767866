import RuleLang.Segment.Scan
import RuleLang.Text.Fold

/-!
# Recognising operators

A matcher finds the symbols of a table, and the two parentheses, in a text. Letters that differ in
case only are the same to it. Where several symbols match at one position the longest is found, so
that `!=` wins over a `!`; that is why they are tried in the order of their length.

Whether there can be a matcher of some symbols is not decided here. What builds matchers keeps a
limit of its own on their size, and may refuse symbols that no other limit of the language rules
out.
-/

set_option autoImplicit false

namespace RuleLang

/-- What matchers are built with. It may refuse to build one, and tells why. -/
class MatcherBuilder where
  /-- Why there is no matcher of some symbols, if there is none. -/
  refusal? : List String → Option String

/-- The symbols to look for, folded, the longer ones first. None of them is empty. -/
structure Matcher where
  symbols : List (List Char)
  nonempty : ∀ symbol ∈ symbols, symbol ≠ []
deriving DecidableEq

namespace Matcher

/-- Matches a folded symbol at the beginning of a text: what it matched, and what follows. -/
def matchFolded : List Char → List Char → Option (List Char × List Char)
  | [], text => some ([], text)
  | d :: symbol, c :: text =>
    if Text.fold c = d then
      (matchFolded symbol text).map fun (found, rest) => (c :: found, rest)
    else none
  | _ :: _, [] => none

theorem length_matchFolded : ∀ {symbol text found rest : List Char},
    matchFolded symbol text = some (found, rest) → text.length = symbol.length + rest.length
  | [], text, found, rest, h => by
    simp only [matchFolded, Option.some.injEq, Prod.mk.injEq] at h
    simp [h.2]
  | d :: symbol, c :: text, found, rest, h => by
    rw [matchFolded] at h
    split at h
    · obtain ⟨⟨found', rest'⟩, heq, hp⟩ := Option.map_eq_some_iff.mp h
      have := length_matchFolded heq
      simp only [Prod.mk.injEq] at hp
      simp only [List.length_cons, ← hp.2]
      omega
    · simp at h
  | _ :: _, [], _, _, h => by simp [matchFolded] at h

/-- The matcher as a recogniser: what it finds is the text as it was written. -/
def recogniser (m : Matcher) : Segment.Recogniser (List Char) where
  find? text := m.symbols.findSome? (matchFolded · text)
  shorter := by
    intro text found rest h
    obtain ⟨symbol, hmem, hmatch⟩ := List.exists_of_findSome?_eq_some h
    have hlen := length_matchFolded hmatch
    have : 0 < symbol.length := List.length_pos_iff.mpr (m.nonempty symbol hmem)
    omega

/-- Longer symbols come first, symbols of one length in the order of their texts. -/
def before (a b : String) : Bool :=
  b.length < a.length || (a.length == b.length && compare a b != .gt)

/-- Puts a symbol in front of the first one that it comes before. -/
def insertSymbol (symbol : String) : List String → List String
  | [] => [symbol]
  | other :: rest =>
    if before symbol other then symbol :: other :: rest else other :: insertSymbol symbol rest

/-- The two parentheses, which are always looked for. -/
def parentheses : List (List Char) := [['('], [')']]

/-- The matcher of a list of symbols. -/
def ofSymbols (symbols : List String) : Matcher where
  symbols :=
    ((symbols.foldr insertSymbol []).map fun symbol => symbol.toList.map Text.fold).filter
      (· ≠ []) ++ parentheses
  nonempty := by
    intro symbol h
    rcases List.mem_append.mp h with h | h
    · simpa using (List.mem_filter.mp h).2
    · simp only [parentheses, List.mem_cons, List.not_mem_nil, or_false] at h
      rcases h with rfl | rfl <;> simp

/-- All that a matcher finds in a text. -/
def findsIn (m : Matcher) (text : String) : List String :=
  (m.recogniser.pieces text.toList).filterMap fun
    | .found symbol => some (String.ofList symbol)
    | .gap _ => none

end Matcher

end RuleLang
