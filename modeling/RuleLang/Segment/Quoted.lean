import RuleLang.Segment.Scan

/-!
# Quoted literals

A literal stands between single quotes, and a quote inside it is written twice. When the text
ends before the literal does, its last doubled quote is taken apart: the first of the two closes
the literal and the second stands outside. Without a doubled quote to take apart there is no
literal, so at most one quote of a text, its last, is left outside of all literals.
-/

set_option autoImplicit false

namespace RuleLang.Segment

/-- The content of a literal and what follows it, given the text after the opening quote. -/
def closeQuote : List Char → Option (List Char × List Char)
  | [] => none
  | '\'' :: '\'' :: rest =>
    match closeQuote rest with
    | some (content, after) => some ('\'' :: content, after)
    | none => some ([], '\'' :: rest)
  | '\'' :: rest => some ([], rest)
  | c :: rest => (closeQuote rest).map fun (content, after) => (c :: content, after)

theorem closeQuote_quote_quote (rest : List Char) :
    closeQuote ('\'' :: '\'' :: rest) =
      match closeQuote rest with
      | some (content, after) => some ('\'' :: content, after)
      | none => some ([], '\'' :: rest) := by
  rw [closeQuote]

theorem closeQuote_of_ne {c : Char} (h : c ≠ '\'') (rest : List Char) :
    closeQuote (c :: rest) =
      (closeQuote rest).map fun (content, after) => (c :: content, after) := by
  rw [closeQuote]
  · rintro _ rfl
    exact absurd rfl h
  · rintro rfl
    exact absurd rfl h

theorem closeQuote_end {rest : List Char} (h : rest.head? ≠ some '\'') :
    closeQuote ('\'' :: rest) = some ([], rest) := by
  rw [closeQuote]
  rintro rest' rfl
  exact absurd rfl h

theorem length_closeQuote : ∀ {text content after : List Char},
    closeQuote text = some (content, after) → after.length < text.length := by
  intro text
  fun_induction closeQuote text with
  | case1 => intro _ _ h; simp at h
  | case2 rest content' after' heq ih =>
    intro content after h
    have := ih heq
    simp only [Option.some.injEq, Prod.mk.injEq] at h
    simp only [List.length_cons, ← h.2]
    omega
  | case3 rest heq ih =>
    intro content after h
    simp only [Option.some.injEq, Prod.mk.injEq] at h
    simp [← h.2]
  | case4 rest hne =>
    intro content after h
    simp only [Option.some.injEq, Prod.mk.injEq] at h
    simp [← h.2]
  | case5 c rest hc hne ih =>
    intro content after h
    obtain ⟨⟨content', after'⟩, heq, hp⟩ := Option.map_eq_some_iff.mp h
    have := ih heq
    simp only [Prod.mk.injEq] at hp
    simp only [List.length_cons, ← hp.2]
    omega

/-- The content of the literal that a text begins with. -/
def quoted? : List Char → Option (List Char × List Char)
  | '\'' :: rest => closeQuote rest
  | _ => none

def quoted : Recogniser (List Char) where
  find? := quoted?
  shorter := by
    intro text content after h
    unfold quoted? at h
    split at h
    · exact Nat.lt_succ_of_lt (length_closeQuote h)
    · simp at h

end RuleLang.Segment
