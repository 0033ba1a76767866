/-!
# Parts of a rule

A rule is a sequence of parts: quoted texts, fields in brackets, operators and parentheses, and
whatever else is written between them. A part keeps what it means, not how it was written:
a text its content with doubled quotes made single, an operator the spelling it was given.
`display` is how a part is shown, `source` how it is written in a rule; the two differ in the
blanks around an operator such as ` and ` only.
-/

set_option autoImplicit false

namespace RuleLang

inductive Part where
  /-- A literal in single quotes. -/
  | text (content : String)
  /-- The name of a field, written in brackets. -/
  | field (name : String)
  /-- The symbol of an operator, or a parenthesis, in the casing it was written with. -/
  | operator (symbol : String)
  /-- A bare literal: a number or an unquoted word, without blanks at its ends. -/
  | other (literal : String)
deriving DecidableEq, Repr

inductive Paren where
  | opening
  | closing
deriving DecidableEq, Repr

namespace Part

def isOperator : Part → Bool
  | operator _ => true
  | _ => false

def field? : Part → Option String
  | field name => some name
  | _ => none

/-- The parenthesis a spelling is. -/
def parenOf? (spelling : String) : Option Paren :=
  if spelling = "(" then some .opening else if spelling = ")" then some .closing else none

/-- The parenthesis a part is. A quoted text or a field never is one, whatever it spells. -/
def paren? : Part → Option Paren
  | operator symbol => parenOf? symbol
  | other literal => parenOf? literal
  | text _ | field _ => none

def doubleQuotes (cs : List Char) : List Char :=
  cs.flatMap fun c => if c = '\'' then ['\'', '\''] else [c]

/-- How a part is written in a rule. -/
def source : Part → List Char
  | text content => '\'' :: doubleQuotes content.toList ++ ['\'']
  | field name => '[' :: name.toList ++ [']']
  | operator symbol => symbol.toList
  | other literal => literal.toList

/-- The names of the fields that parts refer to, each once, in the order of their first
occurrence. -/
def fieldsOf (parts : List Part) : List String :=
  (parts.filterMap field?).foldl (fun seen name => if name ∈ seen then seen else seen ++ [name]) []

end Part

end RuleLang
