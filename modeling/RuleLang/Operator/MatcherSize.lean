import RuleLang.Operator.Matcher

/-!
# The size of matchers

The builder that the program runs with keeps a limit on the size of a matcher, whatever the limits
of a rule book are. The size is that of the machine it makes of the symbols, and is not known before
that is made; it is estimated here by one state for each byte of a symbol. A machine has no fewer
states unless the symbols share much of their text, so what is refused here is too large. It may
have more, for letters that have several cases above all, so some symbols are taken here that it is
too large for. What is proved of tables and books is proved for every builder.
-/

set_option autoImplicit false

namespace RuleLang.MatcherBuilder

/-- The bytes that a matcher may have. -/
def sizeLimit : Nat := 10485760

/-- The bytes of one state. -/
def stateSize : Nat := 32

def totalBytes : List String → Nat
  | [] => 0
  | symbol :: symbols => symbol.utf8ByteSize + totalBytes symbols

theorem utf8ByteSize_le_totalBytes {symbol : String} :
    ∀ {symbols : List String}, symbol ∈ symbols → symbol.utf8ByteSize ≤ totalBytes symbols
  | _ :: _, .head _ => Nat.le_add_right _ _
  | _ :: _, .tail _ hmem =>
    Nat.le_trans (utf8ByteSize_le_totalBytes hmem) (Nat.le_add_left _ _)

def estimatedSize (symbols : List String) : Nat := stateSize * totalBytes symbols

/-- The reason that is given for a refusal. -/
def tooLarge : String :=
  "Compiled regex exceeds size limit of " ++ toString sizeLimit ++ " bytes."

/-- The builder that refuses matchers by their size. -/
instance (priority := low) bySize : MatcherBuilder where
  refusal? symbols := if sizeLimit < estimatedSize symbols then some tooLarge else none

/-- One symbol can be too long by itself. -/
theorem refusal?_of_mem {symbols : List String} {symbol : String} (hmem : symbol ∈ symbols)
    (hlong : sizeLimit < stateSize * symbol.utf8ByteSize) :
    bySize.refusal? symbols = some tooLarge := by
  have hbytes : symbol.utf8ByteSize ≤ totalBytes symbols := utf8ByteSize_le_totalBytes hmem
  exact if_pos (Nat.lt_of_lt_of_le hlong (Nat.mul_le_mul_left stateSize hbytes))

end RuleLang.MatcherBuilder
