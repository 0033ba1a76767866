import RuleLang.SortedMap
import RuleLang.Part
import RuleLang.RuleError
import RuleLang.Operator.Builtin
import RuleLang.Operator.Matcher
import RuleLang.Text.Lower
import RuleLang.Text.Quoted

/-!
# The operator table

Which operators there are. An operator is kept under the lower-case form of its symbol, so the
casing a symbol is written in does not matter; the table remembers the spelling it was given.

The table also holds the matcher that finds its symbols in a rule, once one was asked for. Every
change of the symbols drops it; a change that fails leaves everything as it was. It is when the
matcher is asked for that it may turn out that none can be built.
-/

set_option autoImplicit false

namespace RuleLang

/-- An operator with the spelling of its symbol. -/
structure TableEntry where
  symbol : String
  operator : Operator

/-- The operators that a compiled rule refers to, under the lower-case forms of their symbols. -/
abbrev OperatorSet := SortedMap String Operator

structure OperatorTable where
  entries : SortedMap String TableEntry
  /-- The matcher of the symbols, if it was built since they last changed. -/
  matcher : Option Matcher := none

namespace OperatorTable

/-- What a symbol is looked up by. -/
def key (symbol : String) : String := Text.lower symbol

/-- A table without operators: only parentheses are recognised. -/
def empty : OperatorTable := ⟨.empty, none⟩

def builtin : OperatorTable :=
  ⟨.ofList (Operator.builtins.map fun (symbol, op) => (key symbol, ⟨symbol, op⟩)), none⟩

instance : Inhabited OperatorTable := ⟨empty⟩

/-! ## Looking up -/

def size (t : OperatorTable) : Nat := t.entries.size

def isEmpty (t : OperatorTable) : Bool := t.entries.isEmpty

/-- The operator of a symbol in any casing. -/
def get? (t : OperatorTable) (symbol : String) : Option Operator :=
  (t.entries.get? (key symbol)).map TableEntry.operator

def contains (t : OperatorTable) (symbol : String) : Bool := t.entries.contains (key symbol)

/-- The priority of a symbol; one that is not in the table counts as zero. -/
def priority (t : OperatorTable) (symbol : String) : Int :=
  ((t.get? symbol).map Operator.priority).getD 0

/-- The symbols as they were given, in the order of their lower-case forms. -/
def symbols (t : OperatorTable) : List String := t.entries.values.map TableEntry.symbol

/-- The operators that parts refer to. -/
def bindings (t : OperatorTable) (parts : List Part) : OperatorSet :=
  parts.foldl (fun set part =>
    match part with
    | .operator symbol =>
      match t.get? symbol with
      | some op => set.insert (key symbol) op
      | none => set
    | _ => set) .empty

/-! ## The matcher -/

/-- The matcher of the symbols: the one at hand, or else a new one. -/
def currentMatcher (t : OperatorTable) : Matcher := t.matcher.getD (.ofSymbols t.symbols)

/-- The table with its matcher at hand. -/
def prepared (t : OperatorTable) : OperatorTable := { t with matcher := some t.currentMatcher }

section Building

variable [MatcherBuilder]

/-- Why a table cannot have its matcher at hand: there is none yet, and none can be built. -/
def refusal? (t : OperatorTable) : Option String :=
  match t.matcher with
  | some _ => none
  | none => MatcherBuilder.refusal? t.symbols

/-- The error of a matcher that cannot be built. -/
def refused (reason : String) : RuleError :=
  .engine ("Cannot build operator pattern: " ++ reason)

/-- Has the matcher at hand, or fails because none can be built. -/
def prepare (t : OperatorTable) : Except RuleError OperatorTable :=
  match t.refusal? with
  | some reason => .error (refused reason)
  | none => .ok t.prepared

end Building

/-! ## Changes -/

/-- Adds an operator or replaces the one of the same key. -/
def insert (t : OperatorTable) (symbol : String) (op : Operator) :
    Except RuleError OperatorTable :=
  if symbol.isEmpty then .error (.invalidOperator symbol)
  else .ok ⟨t.entries.insert (key symbol) ⟨symbol, op⟩, none⟩

/-- Removes an operator; a symbol that is not in the table is no concern. -/
def erase (t : OperatorTable) (symbol : String) : OperatorTable :=
  if t.contains symbol then ⟨t.entries.erase (key symbol), none⟩ else t

def clear (_ : OperatorTable) : OperatorTable := empty

/-- Puts the operator of one symbol under another, and gives up the first symbol unless it is to
be kept. -/
def rename (t : OperatorTable) (symbol newSymbol : String) (keep : Bool) :
    Except RuleError OperatorTable :=
  match t.get? symbol with
  | none => .error (.operatorNotFound symbol)
  | some op => (if keep then t else t.erase symbol).insert newSymbol op

/-! ## Listing -/

/-- How a listing shows a table: its symbols, and whether its matcher is at hand. -/
def listing (t : OperatorTable) : String :=
  "OperatorTable \x7b symbols: [" ++ ", ".intercalate (t.symbols.map Text.quoted) ++
    "], matcher_built: " ++ Value.boolText t.matcher.isSome ++ " \x7d"

end OperatorTable

end RuleLang
