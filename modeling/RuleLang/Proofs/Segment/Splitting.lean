import RuleLang.Proofs.Segment.Marks
import RuleLang.Segment.Rule

/-!
# Where a rule can be cut in two

A rule that is put together from pieces does not in general have the parts of the pieces: a quote in
one may be closed in another, and a symbol may be spelled by two of them. But it does at a literal
or a field that has no quote in front of it. **Such a literal stands between the parts of what is
before it and the parts of what is after it** (`ruleParts_literal`), if no quote follows that it
would read on to; **and so does such a field** (`ruleParts_field`). Neither depends on the table.
-/

set_option autoImplicit false

namespace RuleLang.Segment

variable {table : OperatorTable} {front : List Char}

/-- In a text without quotes no literal begins. -/
theorem quoted?_of_isSuffix (h : '\'' ∉ front) {tail : List Char} (htail : tail <:+ front)
    (hne : tail ≠ []) (more : List Char) : quoted.find? (tail ++ more) = none := by
  obtain ⟨c, cs, rfl⟩ := List.exists_cons_of_ne_nil hne
  refine quoted?_of_ne ?_ (cs ++ more)
  rintro rfl
  exact h (htail.subset List.mem_cons_self)

@[simp] theorem operatorParts_nil : operatorParts table [] = [] := by
  rw [operatorParts, Recogniser.pieces_nil, List.filterMap_nil]

@[simp] theorem fieldParts_nil : fieldParts table [] = [] := by
  rw [fieldParts, Recogniser.pieces_nil, List.flatMap_nil]

@[simp] theorem ruleParts_nil : ruleParts table [] = [] := by
  rw [ruleParts, Recogniser.pieces_nil, List.flatMap_nil]

/-- What has no quote in it goes to the next pass together with the gap behind it. -/
theorem exists_ruleParts_append (table : OperatorTable) (text : List Char) :
    ∃ gap parts, ruleParts table text = fieldParts table gap ++ parts ∧
      ∀ front, '\'' ∉ front →
        ruleParts table (front ++ text) = fieldParts table (front ++ gap) ++ parts := by
  have hprepend {front : List Char} (h : '\'' ∉ front) :
      quoted.pieces (front ++ text) = prependGap front (quoted.pieces text) :=
    Recogniser.pieces_prepend fun _ htail hne => quoted?_of_isSuffix h htail hne text
  unfold ruleParts
  by_cases hgap : ∃ gap after, quoted.pieces text = .gap gap :: after
  · obtain ⟨gap, after, hpieces⟩ := hgap
    refine ⟨gap, _, by rw [hpieces, List.flatMap_cons], fun front h => ?_⟩
    rw [hprepend h, hpieces, prependGap_gap, List.flatMap_cons]
  · refine ⟨[], _, by rw [fieldParts_nil, List.nil_append], fun front h => ?_⟩
    rw [hprepend h, List.append_nil]
    by_cases hne : front = []
    · rw [hne, fieldParts_nil]
      rfl
    · rw [prependGap_of_ne_nil hne fun gap after heq => hgap ⟨gap, after, heq⟩, List.flatMap_cons]

theorem ruleParts_eq_fieldParts (h : '\'' ∉ front) :
    ruleParts table front = fieldParts table front := by
  by_cases hne : front = []
  · rw [hne, ruleParts_nil, fieldParts_nil]
  · have hpieces : quoted.pieces front = [.gap front] :=
      Recogniser.pieces_of_nothing hne fun tail htail htailne => by
        have hnone := quoted?_of_isSuffix h htail htailne []
        rwa [List.append_nil] at hnone
    rw [ruleParts, hpieces, List.flatMap_singleton]

theorem fieldParts_eq_operatorParts (h : '[' ∉ front) :
    fieldParts table front = operatorParts table front := by
  by_cases hne : front = []
  · rw [hne, fieldParts_nil, operatorParts_nil]
  · have hpieces : bracketed.pieces front = [.gap front] :=
      Recogniser.pieces_of_nothing hne fun tail htail htailne => by
        obtain ⟨c, cs, rfl⟩ := List.exists_cons_of_ne_nil htailne
        refine bracketed?_of_ne ?_ cs
        rintro rfl
        exact h (htail.subset List.mem_cons_self)
    rw [fieldParts, hpieces, List.flatMap_singleton]

/-- **A literal stands between the parts of what is before and after it**, if there is no quote
before it and none directly after it. -/
theorem ruleParts_literal (h : '\'' ∉ front) (content : String) {back : List Char}
    (hback : back.head? ≠ some '\'') :
    ruleParts table (front ++ ((Part.text content).source ++ back)) =
      ruleParts table front ++ .text content :: ruleParts table back := by
  have hpieces := Recogniser.pieces_append quoted_reads (quoted?_source hback content)
    fun tail htail hne => by
      have hnone := quoted?_of_isSuffix h htail hne []
      rw [List.append_nil] at hnone
      rw [quoted?_of_isSuffix h htail hne, hnone]
      rfl
  rw [ruleParts, hpieces, List.flatMap_append, List.flatMap_cons]
  simp only [String.ofList_toList]
  rfl

/-- **A field stands between the parts of what is before and after it**, if no quotes are left. -/
theorem fieldParts_field (front : List Char) {name : String}
    (hname : ∀ c ∈ name.toList, c ≠ '[' ∧ c ≠ ']') (back : List Char) :
    fieldParts table (front ++ ((Part.field name).source ++ back)) =
      fieldParts table front ++ .field name :: fieldParts table back := by
  have hfront : ∀ tail, tail <:+ front → tail ≠ [] →
      bracketed.find? (tail ++ ((Part.field name).source ++ back)) =
        (bracketed.find? tail).map fun found =>
          (found.1, found.2 ++ ((Part.field name).source ++ back)) :=
    fun tail _ hne => bracketed?_append_bracket tail (name.toList ++ [']'] ++ back) hne
  rw [fieldParts, Recogniser.pieces_append bracketed_reads (bracketed?_source hname back) hfront,
    List.flatMap_append, List.flatMap_cons]
  simp only [String.ofList_toList]
  rfl

/-- **A field stands between the parts of what is before and after it**, if there is no quote
before it. -/
theorem ruleParts_field (h : '\'' ∉ front) {name : String}
    (hname : Unmarked name.toList) (back : List Char) :
    ruleParts table (front ++ ((Part.field name).source ++ back)) =
      ruleParts table front ++ .field name :: ruleParts table back := by
  obtain ⟨gap, parts, hparts, hfront⟩ := exists_ruleParts_append table back
  have hquote : '\'' ∉ front ++ (Part.field name).source := by
    have hquoteName : '\'' ∉ name.toList := fun hmem => (hname _ hmem).2.2 rfl
    simp [Part.source, h, hquoteName]
  have hbrackets : ∀ c ∈ name.toList, c ≠ '[' ∧ c ≠ ']' :=
    fun c hc => ⟨(hname c hc).1, (hname c hc).2.1⟩
  rw [← List.append_assoc, hfront _ hquote, List.append_assoc, fieldParts_field front hbrackets gap,
    ruleParts_eq_fieldParts h, hparts, List.append_assoc, List.cons_append]

end RuleLang.Segment
