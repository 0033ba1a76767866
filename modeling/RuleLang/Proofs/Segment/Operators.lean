import RuleLang.Segment.Rule

/-!
# The operators among the parts of a rule

Recognising a symbol and looking it up use different notions of case, so not all that the matcher
finds is in the table. What is not is a bare literal: **every operator among the parts of a rule is
a parenthesis or in the table** (`known_of_mem_segment`). Everything that relies on a rule having
all its operators bound relies on this.
-/

set_option autoImplicit false

namespace RuleLang.Segment

variable {table : OperatorTable}

theorem parenOf?_of_mem_parentheses {symbol : List Char} (h : symbol ∈ Matcher.parentheses) :
    Part.parenOf? (String.ofList symbol) ≠ none := by
  simp only [Matcher.parentheses, List.mem_cons, List.not_mem_nil, or_false] at h
  rcases h with rfl | rfl <;> decide

theorem bareLiteral?_ne_operator (text : List Char) (symbol : String) :
    bareLiteral? text ≠ some (.operator symbol) := by
  intro h
  unfold bareLiteral? at h
  split at h
  · exact absurd h (by simp)
  · exact absurd h (by simp)

/-- A piece is made an operator only if its spelling is known. -/
theorem known_of_operatorPart? {piece : Piece (List Char)} {symbol : String}
    (h : operatorPart? table piece = some (.operator symbol)) :
    Part.parenOf? symbol ≠ none ∨ table.contains symbol = true := by
  cases piece with
  | gap text => exact absurd h (bareLiteral?_ne_operator text symbol)
  | found spelling =>
    rw [operatorPart?] at h
    split at h
    · next hknown =>
      obtain rfl : String.ofList spelling = symbol := by simpa using h
      exact hknown.imp_left parenOf?_of_mem_parentheses
    · exact absurd h (bareLiteral?_ne_operator spelling symbol)

theorem known_of_mem_operatorParts {text : List Char} {symbol : String}
    (h : Part.operator symbol ∈ operatorParts table text) :
    Part.parenOf? symbol ≠ none ∨ table.contains symbol = true := by
  obtain ⟨piece, _, hpart⟩ := List.mem_filterMap.mp h
  exact known_of_operatorPart? hpart

theorem known_of_mem_fieldParts {text : List Char} {symbol : String}
    (h : Part.operator symbol ∈ fieldParts table text) :
    Part.parenOf? symbol ≠ none ∨ table.contains symbol = true := by
  obtain ⟨piece, _, hpart⟩ := List.mem_flatMap.mp h
  cases piece with
  | found name => exact absurd hpart (by simp)
  | gap text => exact known_of_mem_operatorParts hpart

end RuleLang.Segment

namespace RuleLang

open Segment in
/-- **Every operator among the parts of a rule is a parenthesis or in the table.** -/
theorem OperatorTable.known_of_mem_segment {table : OperatorTable} {rule symbol : String}
    (h : Part.operator symbol ∈ table.segment rule) :
    Part.parenOf? symbol ≠ none ∨ table.contains symbol = true := by
  obtain ⟨piece, _, hpart⟩ := List.mem_flatMap.mp h
  cases piece with
  | found content => exact absurd hpart (by simp)
  | gap text => exact known_of_mem_fieldParts hpart

end RuleLang
