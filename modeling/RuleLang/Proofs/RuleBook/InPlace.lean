import RuleLang.Proofs.Operator.Changes
import RuleLang.Proofs.RuleBook.Run

/-!
# Operations in place

The operations of a book as programs that change it in place, one write after the other. What such
a program has written before it fails stays written: nothing takes it back. So a failure leaves a
book alone only if every check stands before the first write.

Main statement: **the programs do what the operations say** (`result_ofOperation`), with the same
answer and the same book afterwards, whether they succeed or fail.
-/

set_option autoImplicit false

namespace RuleLang.RuleBook

/-- Reads and writes a book, and may fail. A failure does not undo what was written. -/
abbrev Program := ExceptT RuleError (StateM RuleBook)

namespace Program

/-- The answer of a program, and the book as it leaves it. -/
def result {α : Type} (program : Program α) (book : RuleBook) : Except RuleError α × RuleBook :=
  (program.run.run book).run

def writeOperators (change : OperatorTable → OperatorTable) : Program Unit :=
  modify fun book => { book with operators := change book.operators }

def writeEntries (change : SortedMap String TableEntry → SortedMap String TableEntry) :
    Program Unit :=
  writeOperators fun table => { table with entries := change table.entries }

def dropMatcher : Program Unit := writeOperators fun table => { table with matcher := none }

section Builder

variable [MatcherBuilder]

/-- Has the matcher at hand. One that is refused is not written. -/
def prepareMatcher : Program Unit := do
  match (← get).operators.refusal? with
  | some reason => throw (OperatorTable.refused reason)
  | none => writeOperators OperatorTable.prepared

def compile (source : String) : Program Rule := do
  let allowed := (← get).limits.maxRuleBytes
  if allowed < source.utf8ByteSize then
    throw (.limitExceeded .ruleBytes allowed source.utf8ByteSize)
  prepareMatcher
  let book ← get
  ofExcept (Rule.ofText book.operators book.limits source)

def put (name : RuleName) (source : String) : Program Unit := do
  let rule ← compile source
  let book ← get
  if !book.contains name ∧ book.limits.maxRules ≤ book.rules.size then
    throw (.limitExceeded .rules book.limits.maxRules (book.rules.size + 1))
  modify fun book => { book with rules := book.rules.insert name rule }

def add (name : RuleName) (source : String) : Program Unit := do
  if (← get).contains name then
    throw (.ruleExists name)
  put name source

end Builder

def addOperator (symbol : String) (op : Operator) : Program Unit := do
  if symbol.isEmpty then
    throw (.invalidOperator symbol)
  writeEntries fun entries => entries.insert (OperatorTable.key symbol) ⟨symbol, op⟩
  dropMatcher

def eraseOperator (symbol : String) : Program Unit := do
  if (← get).operators.contains symbol then
    writeEntries fun entries => entries.erase (OperatorTable.key symbol)
    dropMatcher

/-- The operator is taken out before it is put in again, so both checks come first. -/
def renameOperator (symbol newSymbol : String) (keep : Bool) : Program Unit := do
  match (← get).operators.get? symbol with
  | none => throw (.operatorNotFound symbol)
  | some op =>
    if newSymbol.isEmpty then
      throw (.invalidOperator newSymbol)
    if !keep then
      writeEntries fun entries => entries.erase (OperatorTable.key symbol)
      dropMatcher
    addOperator newSymbol op

/-- The program of an operation. -/
def ofOperation [MatcherBuilder] : Operation → Program Unit
  | .add name source => add name source
  | .put name source => put name source
  | .compile source => discard (compile source)
  | .erase name => modify fun book => book.erase name
  | .addOperator symbol op => addOperator symbol op
  | .eraseOperator symbol => eraseOperator symbol
  | .clearOperators => do
    writeEntries fun _ => .empty
    dropMatcher
  | .renameOperator symbol newSymbol keep => renameOperator symbol newSymbol keep

/-! ## What programs do -/

variable {α β : Type} {book : RuleBook}

@[simp] theorem result_throw (e : RuleError) :
    (throw e : Program α).result book = (.error e, book) := rfl

@[simp] theorem result_get : (get : Program RuleBook).result book = (.ok book, book) := rfl

@[simp] theorem result_modify (change : RuleBook → RuleBook) :
    (modify change : Program Unit).result book = (.ok (), change book) := rfl

@[simp] theorem result_writeOperators (change : OperatorTable → OperatorTable) :
    (writeOperators change).result book =
      (.ok (), { book with operators := change book.operators }) := rfl

@[simp] theorem result_ofExcept (value : Except RuleError α) :
    (ofExcept value : Program α).result book = (value, book) := by
  cases value <;> rfl

/-- A program goes on in the book that is left, unless it has failed: then that is the book. -/
@[simp] theorem result_bind (program : Program α) (next : α → Program β) :
    (program >>= next).result book =
      match program.result book with
      | (.ok a, after) => (next a).result after
      | (.error e, after) => (.error e, after) := by
  simp only [result, ExceptT.run_bind, StateT.run_bind, Id.run_bind]
  rcases (program.run.run book).run with ⟨e | a, after⟩ <;> rfl

section Builder

variable [MatcherBuilder]

theorem result_prepareMatcher (book : RuleBook) :
    prepareMatcher.result book =
      match book.operators.prepare with
      | .ok operators => (.ok (), { book with operators })
      | .error e => (.error e, book) := by
  unfold prepareMatcher OperatorTable.prepare
  simp only [result_bind, result_get]
  cases book.operators.refusal? <;> rfl

theorem result_compile (book : RuleBook) (source : String) :
    (compile source).result book = book.compile source := by
  unfold compile RuleBook.compile
  simp only [result_bind, result_get]
  split
  · rfl
  · simp only [result_bind, result_prepareMatcher]
    cases book.operators.prepare with
    | error e => rfl
    | ok table => simp

theorem result_put (book : RuleBook) (name : RuleName) (source : String) :
    (put name source).result book = book.put name source := by
  unfold put RuleBook.put
  rw [result_bind, result_compile]
  rcases book.compile source with ⟨e | rule, after⟩
  · rfl
  · simp only [result_bind, result_get]
    split <;> rfl

theorem result_add (book : RuleBook) (name : RuleName) (source : String) :
    (add name source).result book = book.add name source := by
  unfold add RuleBook.add
  simp only [result_bind, result_get]
  split
  · rfl
  · exact result_put book name source

end Builder

theorem result_addOperator (book : RuleBook) (symbol : String) (op : Operator) :
    (addOperator symbol op).result book = book.addOperator symbol op := by
  unfold addOperator RuleBook.addOperator OperatorTable.insert
  split <;> rfl

theorem result_eraseOperator (book : RuleBook) (symbol : String) :
    (eraseOperator symbol).result book = (.ok (), book.eraseOperator symbol) := by
  unfold eraseOperator RuleBook.eraseOperator OperatorTable.erase
  simp only [result_bind, result_get]
  split <;> rfl

theorem result_renameOperator (book : RuleBook) (symbol newSymbol : String) (keep : Bool) :
    (renameOperator symbol newSymbol keep).result book =
      book.renameOperator symbol newSymbol keep := by
  unfold renameOperator RuleBook.renameOperator
  rw [OperatorTable.rename_eq]
  simp only [result_bind, result_get]
  cases book.operators.get? symbol with
  | none => rfl
  | some op =>
    dsimp only
    cases hempty : newSymbol.isEmpty with
    | true =>
      rw [OperatorTable.insert, hempty]
      rfl
    | false =>
      -- Behind the checks nothing fails, so it does not matter what a failure would leave.
      have hadd (book : RuleBook) : (addOperator newSymbol op).result book =
          (.ok (), { book with operators :=
            ⟨book.operators.entries.insert (OperatorTable.key newSymbol) ⟨newSymbol, op⟩,
              none⟩ }) := by
        rw [result_addOperator, RuleBook.addOperator, OperatorTable.insert, hempty]
        rfl
      rw [OperatorTable.insert, hempty]
      cases keep with
      | true => exact hadd book
      | false =>
        exact hadd { book with operators := ⟨book.operators.entriesLeft symbol false, none⟩ }

/-- **The programs do what the operations say.** -/
theorem result_ofOperation [MatcherBuilder] (book : RuleBook) (op : Operation) :
    (ofOperation op).result book = book.perform op := by
  cases op with
  | add name source => exact result_add book name source
  | put name source => exact result_put book name source
  | compile source =>
    show (compile source >>= fun _ => pure ()).result book = _
    rw [result_bind, result_compile, perform]
    rcases book.compile source with ⟨e | rule, after⟩ <;> rfl
  | erase name => rfl
  | addOperator symbol op => exact result_addOperator book symbol op
  | eraseOperator symbol => exact result_eraseOperator book symbol
  | clearOperators => rfl
  | renameOperator symbol newSymbol keep => exact result_renameOperator book symbol newSymbol keep

end Program

end RuleLang.RuleBook
