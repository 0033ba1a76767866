import RuleLang.Part
import RuleLang.Segment.Quoted
import RuleLang.Segment.Bracketed
import RuleLang.Proofs.Segment.Scan

/-!
# Literals and fields in a text

A literal is found where its source stands and nothing else: doubling the quotes of the content and
putting it between quotes gives the text back (`quoted_reads`), and a source is read to its end and
not beyond it, as long as no quote follows (`quoted?_source`). The same holds of fields, whose
brackets cannot be read across: **what is found in front of an opening bracket does not depend on
what comes after it** (`bracketed?_append_bracket`).
-/

set_option autoImplicit false

namespace RuleLang.Segment

/-- A text without brackets and quotes. -/
def Unmarked (text : List Char) : Prop := ∀ c ∈ text, c ≠ '[' ∧ c ≠ ']' ∧ c ≠ '\''

-- By the list: that a property of all characters is decidable too would be found first.
instance (text : List Char) : Decidable (Unmarked text) :=
  List.decidableBAll (fun c => c ≠ '[' ∧ c ≠ ']' ∧ c ≠ '\'') text

/-! ## Literals -/

theorem doubleQuotes_cons (c : Char) (cs : List Char) :
    Part.doubleQuotes (c :: cs) =
      (if c = '\'' then ['\'', '\''] else [c]) ++ Part.doubleQuotes cs :=
  List.flatMap_cons

/-- A literal closes behind its content, the quotes in it doubled. -/
theorem eq_of_closeQuote (text : List Char) : ∀ {content after : List Char},
    closeQuote text = some (content, after) →
      text = Part.doubleQuotes content ++ '\'' :: after := by
  fun_induction closeQuote text with
  | case1 => simp
  | case2 rest content' after' heq ih =>
    intro content after h
    obtain ⟨rfl, rfl⟩ := Prod.mk.inj (Option.some.inj h)
    rw [doubleQuotes_cons, if_pos rfl, ih heq]
    rfl
  | case3 rest heq ih =>
    intro content after h
    obtain ⟨rfl, rfl⟩ := Prod.mk.inj (Option.some.inj h)
    rfl
  | case4 rest hne =>
    intro content after h
    obtain ⟨rfl, rfl⟩ := Prod.mk.inj (Option.some.inj h)
    rfl
  | case5 c rest hpair hquote ih =>
    intro content after h
    obtain ⟨⟨content', after'⟩, heq, hcons⟩ := Option.map_eq_some_iff.mp h
    obtain ⟨rfl, rfl⟩ := Prod.mk.inj hcons
    rw [doubleQuotes_cons, if_neg hquote, ih heq]
    rfl

/-- **A literal is read to its end and not beyond it**, if no quote follows. -/
theorem closeQuote_doubleQuotes {rest : List Char} (h : rest.head? ≠ some '\'')
    (content : List Char) :
    closeQuote (Part.doubleQuotes content ++ '\'' :: rest) = some (content, rest) := by
  induction content with
  | nil => exact closeQuote_end h
  | cons c content ih =>
    rw [doubleQuotes_cons]
    by_cases hc : c = '\''
    · subst hc
      rw [if_pos rfl, List.cons_append, List.singleton_append, List.cons_append, List.cons_append,
        closeQuote_quote_quote, ih]
    · rw [if_neg hc, List.cons_append, List.nil_append, List.cons_append, closeQuote_of_ne hc, ih]
      rfl

theorem quoted?_source {rest : List Char} (h : rest.head? ≠ some '\'') (content : String) :
    quoted.find? ((Part.text content).source ++ rest) = some (content.toList, rest) := by
  show closeQuote (Part.doubleQuotes content.toList ++ ['\''] ++ rest) = _
  rw [List.append_assoc]
  exact closeQuote_doubleQuotes h content.toList

theorem quoted_reads : quoted.Reads fun content => (Part.text (String.ofList content)).source := by
  intro text rest content h
  obtain ⟨inside, rfl⟩ : ∃ inside, text = '\'' :: inside := by
    change quoted? text = _ at h
    unfold quoted? at h
    split at h
    · exact ⟨_, rfl⟩
    · exact absurd h (by simp)
  rw [eq_of_closeQuote inside h]
  simp [Part.source]

/-- A literal begins with a quote. -/
theorem quoted?_of_ne {c : Char} (h : c ≠ '\'') (rest : List Char) :
    quoted.find? (c :: rest) = none := by
  change quoted? (c :: rest) = none
  rw [quoted?]
  intro _ heq
  exact h (List.cons.inj heq).1

/-! ## Fields -/

theorem bracketed?_cons (rest : List Char) :
    bracketed.find? ('[' :: rest) =
      match rest.dropWhile inName with
      | ']' :: after => some (rest.takeWhile inName, after)
      | _ => none := rfl

theorem bracketed?_of_ne {c : Char} (h : c ≠ '[') (rest : List Char) :
    bracketed.find? (c :: rest) = none := by
  change bracketed? (c :: rest) = none
  rw [bracketed?]
  intro _ heq
  exact h (List.cons.inj heq).1

theorem inName_iff {c : Char} : inName c = true ↔ c ≠ '[' ∧ c ≠ ']' := by
  simp [inName]

/-- What is found stands between two brackets, and has none in it. -/
theorem eq_of_bracketed? {text name rest : List Char}
    (h : bracketed.find? text = some (name, rest)) :
    text = '[' :: name ++ ']' :: rest ∧ ∀ c ∈ name, c ≠ '[' ∧ c ≠ ']' := by
  cases text with
  | nil => exact absurd h (by simp [bracketed, bracketed?])
  | cons c inside =>
    by_cases hc : c = '['
    · subst hc
      rw [bracketed?_cons] at h
      split at h
      · next after hdrop =>
        obtain ⟨rfl, rfl⟩ := Prod.mk.inj (Option.some.inj h)
        refine ⟨?_, fun c hc => inName_iff.mp (List.all_eq_true.mp (List.all_takeWhile ..) c hc)⟩
        rw [List.cons_append, ← hdrop, List.takeWhile_append_dropWhile]
      · exact absurd h (by simp)
    · rw [bracketed?_of_ne hc] at h
      exact absurd h (by simp)

theorem bracketed_reads :
    bracketed.Reads fun name => (Part.field (String.ofList name)).source := by
  intro text rest name h
  rw [(eq_of_bracketed? h).1]
  simp [Part.source]

theorem bracketed?_source {name : String} (h : ∀ c ∈ name.toList, c ≠ '[' ∧ c ≠ ']')
    (rest : List Char) :
    bracketed.find? ((Part.field name).source ++ rest) = some (name.toList, rest) := by
  have hin : ∀ c ∈ name.toList, inName c = true := fun c hc => inName_iff.mpr (h c hc)
  have hend : inName ']' = false := rfl
  rw [Part.source, List.cons_append, List.cons_append, List.append_assoc, List.singleton_append,
    bracketed?_cons, List.dropWhile_append_of_pos hin, List.takeWhile_append_of_pos hin,
    List.dropWhile_cons_of_neg (by simp [hend]), List.takeWhile_cons_of_neg (by simp [hend]),
    List.append_nil]
  rfl

/-- **Nothing is read across an opening bracket.** -/
theorem bracketed?_append_bracket (text more : List Char) (hne : text ≠ []) :
    bracketed.find? (text ++ '[' :: more) =
      (bracketed.find? text).map fun found => (found.1, found.2 ++ '[' :: more) := by
  cases text with
  | nil => exact absurd rfl hne
  | cons c inside =>
    by_cases hc : c = '['
    · subst hc
      rw [List.cons_append, bracketed?_cons, bracketed?_cons, List.dropWhile_append,
        List.takeWhile_append]
      cases hdrop : inside.dropWhile inName with
      | nil =>
        -- The name goes on to the bracket, and a bracket that opens does not end it.
        have hopen : ('[' :: more).dropWhile inName = '[' :: more :=
          List.dropWhile_cons_of_neg (by simp [inName])
        simp [hopen]
      | cons d rest =>
        have hshort : (inside.takeWhile inName).length ≠ inside.length := by
          intro hlen
          have hsplit := congrArg List.length
            (@List.takeWhile_append_dropWhile _ inName inside)
          rw [List.length_append, hdrop, List.length_cons] at hsplit
          omega
        rw [if_neg (by simp), if_neg hshort]
        by_cases hd : d = ']'
        · subst hd
          rfl
        · simp [hd]
    · rw [List.cons_append, bracketed?_of_ne hc, bracketed?_of_ne hc]
      rfl

end RuleLang.Segment
