import RuleLang.Proofs.Alike
import RuleLang.Proofs.Segment.LeftmostLongest

/-!
# What a text sees of a table

To cut a text and to compile it is to look up what stands in it, and nothing else. So two tables
that agree on all that stands in a text (`AgreeOn`) are one to it: **they cut it into the same
parts** (`AgreeOn.segment`) **and compile it to the same rule** (`AgreeOn.ofText`), or fail with the
same error, whatever else is in the one table and not in the other.
-/

set_option autoImplicit false

namespace RuleLang.OperatorTable

open Segment

/-- Whether two tables agree on all that stands in a text: on what is recognised, and on which
operator it is. -/
structure AgreeOn (table table' : OperatorTable) (text : List Char) : Prop where
  recognises : ∀ spelling, spelling <:+: text →
    (table.Recognises spelling ↔ table'.Recognises spelling)
  operator : ∀ spelling, spelling <:+: text →
    table.get? (String.ofList spelling) = table'.get? (String.ofList spelling)

namespace AgreeOn

variable {table table' : OperatorTable} {text other : List Char}

theorem of_isInfix (hagree : AgreeOn table table' text) (hother : other <:+: text) :
    AgreeOn table table' other where
  recognises spelling hspelling := hagree.recognises spelling (hspelling.trans hother)
  operator spelling hspelling := hagree.operator spelling (hspelling.trans hother)

variable [MatcherBuilder] (h : table.Reachable) (h' : table'.Reachable)
include h h'

/-! ## Cutting -/

/-- At every place in the text the matchers find the same. -/
theorem pieces (hagree : AgreeOn table table' text) :
    table.currentMatcher.recogniser.pieces text = table'.currentMatcher.recogniser.pieces text := by
  refine Recogniser.pieces_congr (Matcher.reads _) text fun tail htail => ?_
  refine find?_congr h h' fun found rest htext => ?_
  have hfound : found <+: tail := ⟨rest, htext.symm⟩
  rw [← recognises_iff h, ← recognises_iff h']
  exact hagree.recognises found (hfound.isInfix.trans htail.isInfix)

theorem operatorParts (hagree : AgreeOn table table' text) :
    Segment.operatorParts table text = Segment.operatorParts table' text := by
  rw [Segment.operatorParts, Segment.operatorParts, ← hagree.pieces h h']
  refine List.filterMap_congr fun piece hpiece => ?_
  cases piece with
  | gap gap => rfl
  | found spelling =>
    have hstands : spelling <:+: text :=
      Recogniser.isInfix_of_mem_pieces (Matcher.reads _) hpiece
    rw [operatorPart?, operatorPart?, contains_eq_isSome, contains_eq_isSome,
      hagree.operator spelling hstands]

theorem fieldParts (hagree : AgreeOn table table' text) :
    Segment.fieldParts table text = Segment.fieldParts table' text := by
  refine List.flatMap_congr fun piece hpiece => ?_
  cases piece with
  | found name => rfl
  | gap gap =>
    have hgap : gap <:+: text := Recogniser.isInfix_of_mem_pieces bracketed_reads hpiece
    exact (hagree.of_isInfix hgap).operatorParts h h'

/-- **Tables that agree on a text cut it into the same parts.** -/
theorem segment {rule : String} (hagree : AgreeOn table table' rule.toList) :
    table.segment rule = table'.segment rule := by
  refine List.flatMap_congr fun piece hpiece => ?_
  cases piece with
  | found content => rfl
  | gap gap =>
    have hgap : gap <:+: rule.toList := Recogniser.isInfix_of_mem_pieces quoted_reads hpiece
    exact (hagree.of_isInfix hgap).fieldParts h h'

/-! ## Compiling -/

/-- **Tables that agree on a text compile it to the same rule**, or fail with the same error. -/
theorem ofText {source : String} (hagree : AgreeOn table table' source.toList) (limits : Limits) :
    Rule.ofText table limits source = Rule.ofText table' limits source := by
  refine Rule.ofText_congr limits (hagree.segment h h') fun symbol hmem => ?_
  have hstands : symbol.toList <:+: source.toList :=
    (spaced_ruleParts source.toList).isInfix_source _ hmem
  have hoperator := hagree.operator symbol.toList hstands
  rwa [String.ofList_toList] at hoperator

end AgreeOn

end RuleLang.OperatorTable
