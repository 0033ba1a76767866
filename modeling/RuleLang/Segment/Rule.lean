import RuleLang.Operator.Table
import RuleLang.Segment.Quoted
import RuleLang.Segment.Bracketed
import RuleLang.Text.Blank

/-!
# Cutting a rule into parts

A rule is cut in three passes, each over what the one before it left: quoted literals first, then
fields in brackets, then operators and parentheses. What is left after that is a bare literal,
without the blanks around it.

Recognising an operator and looking it up use different notions of case. What is recognised but
not found under its lower-case form is a bare literal.
-/

set_option autoImplicit false

namespace RuleLang.Segment

/-- The bare literal of a text, unless nothing but blanks is in it. -/
def bareLiteral? (text : List Char) : Option Part :=
  match Text.trimmed text with
  | [] => none
  | literal => some (.other (String.ofList literal))

def operatorPart? (table : OperatorTable) : Piece (List Char) → Option Part
  | .found symbol =>
    if symbol ∈ Matcher.parentheses ∨ table.contains (String.ofList symbol) then
      some (.operator (String.ofList symbol))
    else bareLiteral? symbol
  | .gap text => bareLiteral? text

/-- The parts of a text without quoted literals and fields. -/
def operatorParts (table : OperatorTable) (text : List Char) : List Part :=
  (table.currentMatcher.recogniser.pieces text).filterMap (operatorPart? table)

/-- The parts of a text without quoted literals. -/
def fieldParts (table : OperatorTable) (text : List Char) : List Part :=
  (bracketed.pieces text).flatMap fun
    | .found name => [.field (String.ofList name)]
    | .gap text => operatorParts table text

def ruleParts (table : OperatorTable) (text : List Char) : List Part :=
  (quoted.pieces text).flatMap fun
    | .found content => [.text (String.ofList content)]
    | .gap text => fieldParts table text

end RuleLang.Segment

namespace RuleLang

/-- The parts of a rule, from left to right. -/
def OperatorTable.segment (table : OperatorTable) (rule : String) : List Part :=
  Segment.ruleParts table rule.toList

end RuleLang
