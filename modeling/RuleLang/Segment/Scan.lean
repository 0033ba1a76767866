/-!
# Scanning a text

The one way in which a text is cut: from left to right, whatever a recogniser finds at a position
is taken out, and what it finds nothing at is left over. `pieces` gives both, in the order of the
text: the finds, and the gaps before, between and after them. A gap is never empty.
-/

set_option autoImplicit false

namespace RuleLang.Segment

universe u

/-- What is looked for in a text. At the beginning of a text it finds something or not; what it
finds takes at least one character, and it says what is left behind it. -/
structure Recogniser (α : Type u) where
  find? : List Char → Option (α × List Char)
  shorter : ∀ {text : List Char} {a : α} {rest : List Char},
    find? text = some (a, rest) → rest.length < text.length

/-- A piece of a text that was scanned. -/
inductive Piece (α : Type u) where
  | gap (text : List Char)
  | found (a : α)
deriving DecidableEq, Repr

variable {α : Type u}

/-- Puts a character in front of pieces, into the gap they begin with if there is one. -/
def extendGap (c : Char) : List (Piece α) → List (Piece α)
  | .gap text :: pieces => .gap (c :: text) :: pieces
  | pieces => .gap [c] :: pieces

/-- The finds in a text and the gaps around them. -/
def Recogniser.pieces (r : Recogniser α) : List Char → List (Piece α)
  | [] => []
  | c :: cs =>
    match _find : r.find? (c :: cs) with
    | some (a, rest) => .found a :: r.pieces rest
    | none => extendGap c (r.pieces cs)
termination_by text => text.length
decreasing_by
  · exact r.shorter ‹_›
  · exact Nat.lt_succ_self _

end RuleLang.Segment
