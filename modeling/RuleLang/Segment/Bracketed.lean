import RuleLang.Segment.Scan

/-!
# Fields in brackets

The name of a field stands between brackets and has none in it. Blanks belong to the name, and
the name may be empty. A bracket that is not one of such a pair is an ordinary character.
-/

set_option autoImplicit false

namespace RuleLang.Segment

def inName (c : Char) : Bool := c != '[' && c != ']'

/-- The name of the field that a text begins with. -/
def bracketed? : List Char → Option (List Char × List Char)
  | '[' :: rest =>
    match rest.dropWhile inName with
    | ']' :: after => some (rest.takeWhile inName, after)
    | _ => none
  | _ => none

def bracketed : Recogniser (List Char) where
  find? := bracketed?
  shorter := by
    intro text name after h
    unfold bracketed? at h
    split at h
    · next rest =>
      split at h
      · next tail heq =>
        simp only [Option.some.injEq, Prod.mk.injEq] at h
        have hle := (List.dropWhile_sublist inName (l := rest)).length_le
        rw [heq, h.2, List.length_cons] at hle
        exact Nat.lt_succ_of_lt hle
      · simp at h
    · simp at h

end RuleLang.Segment
