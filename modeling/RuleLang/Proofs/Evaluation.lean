import RuleLang.Evaluate
import RuleLang.Proofs.Tree.Completed

/-!
# Evaluation is the reading of a prefix form

`evaluate` goes through a sequence once, with a stack of what waits. Here it is set against trees:
`Tree.value` computes the operands of an application first, the left one before the right one, and
applies the operator to them.

Main statement: **on every sequence, evaluation is what its reading as a tree says**
(`evaluate_reads_prefix`). The step to it is `run_parts`: running through the prefix form of a tree
does to the stack what taking in its value does. It needs no assumption on the stack but that
something waits; that is why evaluation is told apart from a reading only where nothing waits, at
the beginning.
-/

set_option autoImplicit false

namespace RuleLang

variable (bound : OperatorSet) (record : Record)

namespace Tree

/-- The value of a tree: that of the left operand first, then that of the right one, then the
operator that the symbol is bound to, applied to both. The first error wins. -/
def value : Tree → Except EvalError Value
  | operand part _ => .ok (Evaluate.operandValue record part)
  | apply symbol left right => do
    let l ← left.value
    let r ← right.value
    match bound.get? (OperatorTable.key symbol) with
    | none => .error (.unknownOperator symbol)
    | some op => (op.apply l r).mapError .operator

/-- Why a tree has no value. -/
def error? (t : Tree) : Option EvalError :=
  match t.value bound record with
  | .ok _ => none
  | .error e => some e

end Tree

namespace Tree

variable {bound record}

theorem error?_of_ok {t : Tree} {value : Value} (h : t.value bound record = .ok value) :
    t.error? bound record = none := by
  rw [error?, h]

theorem error?_of_error {t : Tree} {e : EvalError} (h : t.value bound record = .error e) :
    t.error? bound record = some e := by
  rw [error?, h]

/-- What a tree fails with: a symbol of its own that nothing is bound to, or an operator. -/
theorem value_error {t : Tree} : ∀ {e : EvalError}, t.value bound record = .error e →
    (∃ symbol, Part.operator symbol ∈ t.parts ∧
      bound.get? (OperatorTable.key symbol) = none ∧ e = .unknownOperator symbol) ∨
    ∃ cause, e = .operator cause := by
  induction t with
  | operand part plain =>
    intro e h
    exact absurd h (by simp [value])
  | apply symbol left right ihl ihr =>
    intro e h
    rw [value] at h
    cases hl : left.value bound record with
    | error el =>
      rw [hl] at h
      obtain rfl : el = e := Except.error.inj h
      rcases ihl hl with ⟨s, hs, hnone⟩ | hcause
      · exact .inl ⟨s, by simp [parts, hs], hnone⟩
      · exact .inr hcause
    | ok l =>
      cases hr : right.value bound record with
      | error er =>
        rw [hl, hr] at h
        obtain rfl : er = e := Except.error.inj h
        rcases ihr hr with ⟨s, hs, hnone⟩ | hcause
        · exact .inl ⟨s, by simp [parts, hs], hnone⟩
        · exact .inr hcause
      | ok r =>
        simp only [hl, hr, bind, Except.bind] at h
        split at h
        · next hnone => exact .inl ⟨symbol, by simp [parts], hnone, (Except.error.inj h).symm⟩
        · next op hop =>
          cases happly : op.apply l r with
          | ok v =>
            rw [happly] at h
            exact absurd (show (Except.ok v : Except EvalError Value) = .error e from h) (by simp)
          | error cause =>
            rw [happly] at h
            exact .inr ⟨cause, (Except.error.inj h).symm⟩

theorem value_ne_missingOperator {t : Tree} : t.value bound record ≠ .error .missingOperator := by
  intro h
  rcases value_error h with ⟨_, _, _, he⟩ | ⟨_, he⟩
  · exact EvalError.noConfusion he
  · exact EvalError.noConfusion he

/-- The first application of a tree that has no value is why the tree has none. -/
theorem findSome?_applications (t : Tree) :
    t.applications.findSome? (error? bound record) = t.error? bound record := by
  induction t with
  | operand part plain => rfl
  | apply symbol left right ihl ihr =>
    rw [applications, List.findSome?_append, List.findSome?_append, ihl, ihr]
    cases hl : left.value bound record with
    | error e =>
      have h : (apply symbol left right).value bound record = .error e := by
        rw [value, hl]
        rfl
      rw [error?_of_error hl, error?_of_error h]
      rfl
    | ok l =>
      cases hr : right.value bound record with
      | error e =>
        have h : (apply symbol left right).value bound record = .error e := by
          rw [value, hl, hr]
          rfl
        rw [error?_of_ok hl, error?_of_error hr, error?_of_error h]
        rfl
      | ok r =>
        rw [error?_of_ok hl, error?_of_ok hr]
        cases h : (apply symbol left right).error? bound record <;> simp [h]

theorem findSome?_flatMap_applications (ts : List Tree) :
    (ts.flatMap applications).findSome? (error? bound record) =
      ts.findSome? (error? bound record) := by
  induction ts with
  | nil => rfl
  | cons t ts ih =>
    rw [List.flatMap_cons, List.findSome?_append, findSome?_applications, ih,
      List.findSome?_cons]
    cases t.error? bound record <;> rfl

end Tree

namespace Evaluate

open RuleLang.Tree (Pending)

/-! ## Running through a tree -/

def resume (parts : List Part) : Progress → Except EvalError Value
  | .result value => .ok value
  | .waiting stack => run bound record stack parts

/-- What the value of an application does to what waits below it. -/
def settle (value : Value) : List Waiting → Except EvalError Progress
  | [] => .ok (.result value)
  | stack => takeOperand bound value stack

variable {bound record}

theorem settle_of_ne_nil {value : Value} {stack : List Waiting} (h : stack ≠ []) :
    settle bound value stack = takeOperand bound value stack := by
  cases stack with
  | nil => exact absurd rfl h
  | cons _ _ => rfl

theorem run_operand {part : Part} (plain : part.isOperator = false) (stack : List Waiting)
    (parts : List Part) :
    run bound record stack (part :: parts) =
      takeOperand bound (operandValue record part) stack >>= resume bound record parts := by
  cases part with
  | operator symbol => exact absurd plain (by simp [Part.isOperator])
  | text _ | field _ | other _ =>
    rw [run]
    · exact bind_congr fun progress => by cases progress <;> rfl
    · simp

theorem applySymbol_eq (symbol : String) (left right : Value) :
    applySymbol bound symbol left right =
      match bound.get? (OperatorTable.key symbol) with
      | none => .error (.unknownOperator symbol)
      | some op => (op.apply left right).mapError .operator := by
  unfold applySymbol
  cases bound.get? (OperatorTable.key symbol) with
  | none => rfl
  | some op =>
    cases h : op.apply left right with
    | ok value =>
      simp only [h]
      rfl
    | error cause =>
      simp only [h]
      rfl

theorem takeOperand_right (symbol : String) (left right : Value) (stack : List Waiting) :
    takeOperand bound right (.operand left :: .operator symbol :: stack) =
      applySymbol bound symbol left right >>= fun value => settle bound value stack := by
  rw [takeOperand, complete]
  · refine bind_congr fun value => ?_
    cases stack with
    | nil => rfl
    | cons top stack => cases top <;> rfl
  · simp

/-- **Running through a tree is taking in its value**, wherever something waits for it. -/
theorem run_parts (t : Tree) : ∀ {stack : List Waiting} (rest : List Part), stack ≠ [] →
    run bound record stack (t.parts ++ rest) =
      t.value bound record >>= fun value =>
        takeOperand bound value stack >>= resume bound record rest := by
  induction t with
  | operand part plain =>
    intro stack rest _
    exact run_operand plain stack rest
  | apply symbol left right ihl ihr =>
    intro stack rest hne
    -- Something waits for either operand, whatever waits for the tree: its own operator does.
    have hleft := @ihl (.operator symbol :: stack) (right.parts ++ rest) (by simp)
    have hright (l : Value) := @ihr (.operand l :: .operator symbol :: stack) rest (by simp)
    calc run bound record stack ((Tree.apply symbol left right).parts ++ rest)
        = run bound record (.operator symbol :: stack) (left.parts ++ (right.parts ++ rest)) := by
          rw [Tree.parts, List.cons_append, List.append_assoc, run]
      _ = (do
            let l ← left.value bound record
            run bound record (.operand l :: .operator symbol :: stack) (right.parts ++ rest)) :=
          hleft
      _ = (do
            let l ← left.value bound record
            let r ← right.value bound record
            let value ← applySymbol bound symbol l r
            takeOperand bound value stack >>= resume bound record rest) := by
          simp only [hright, takeOperand_right, settle_of_ne_nil hne, bind_assoc]
      _ = _ := by
          simp only [Tree.value, applySymbol_eq, bind_assoc]

/-- **Where nothing waits, an application is the result**, and what follows it is not looked at. -/
theorem run_apply (symbol : String) (left right : Tree) (rest : List Part) :
    run bound record [] ((Tree.apply symbol left right).parts ++ rest) =
      (Tree.apply symbol left right).value bound record := by
  calc run bound record [] ((Tree.apply symbol left right).parts ++ rest)
      = run bound record [.operator symbol] (left.parts ++ (right.parts ++ rest)) := by
        rw [Tree.parts, List.cons_append, List.append_assoc, run]
    _ = (do
          let l ← left.value bound record
          run bound record [.operand l, .operator symbol] (right.parts ++ rest)) :=
        run_parts left _ (by simp)
    _ = (do
          let l ← left.value bound record
          let r ← right.value bound record
          applySymbol bound symbol l r >>= fun value => .ok value) := by
        refine bind_congr fun l => ?_
        rw [run_parts right _ (by simp)]
        refine bind_congr fun r => ?_
        rw [takeOperand_right, bind_assoc]
        rfl
    _ = _ := by
        simp only [Tree.value, applySymbol_eq]
        refine bind_congr fun l => bind_congr fun r => bind_pure _

/-! ## Running while operators wait -/

/-- **A run that never completes an expression** ends with the first error of the left operands
that are there, and is incomplete if they all have values. -/
theorem run_pending (pending : List Pending) : ∀ (stack : List Waiting),
    run bound record stack (pending.flatMap Pending.parts) =
      .error (((pending.filterMap Pending.left).findSome? (Tree.error? bound record)).getD
        .incomplete) := by
  induction pending with
  | nil =>
    intro stack
    cases stack <;> rfl
  | cons p pending ih =>
    intro stack
    obtain ⟨symbol, waiting⟩ := p
    cases waiting with
    | none => exact ih (.operator symbol :: stack)
    | some t =>
      have hrun : run bound record stack ((⟨symbol, some t⟩ :: pending).flatMap Pending.parts) =
          (do
            let value ← t.value bound record
            run bound record (.operand value :: .operator symbol :: stack)
              (pending.flatMap Pending.parts)) :=
        run_parts t (pending.flatMap Pending.parts) (by simp)
      rw [hrun, List.filterMap_cons, List.findSome?_cons]
      cases hvalue : t.value bound record with
      | error e => simp [Tree.error?, hvalue, bind, Except.bind]
      | ok value =>
        rw [Tree.error?_of_ok hvalue]
        exact ih _

end Evaluate

/-! ## The result on every sequence -/

theorem evaluate_operand {part : Part} (plain : part.isOperator = false) (rest : List Part) :
    evaluate bound record (part :: rest) = .error .missingOperand := by
  rw [evaluate, Evaluate.run_operand plain]
  rfl

theorem evaluate_apply (symbol : String) (left right : Tree) (rest : List Part) :
    evaluate bound record ((Tree.apply symbol left right).parts ++ rest) =
      (Tree.apply symbol left right).value bound record :=
  Evaluate.run_apply symbol left right rest

theorem evaluate_pending (pending : List Tree.Pending) :
    evaluate bound record (pending.flatMap Tree.Pending.parts) =
      .error (((pending.filterMap Tree.Pending.left).findSome? (Tree.error? bound record)).getD
        .incomplete) :=
  Evaluate.run_pending pending []

/-- No evaluation finds an operator missing: below every operand that waits there is one. -/
theorem evaluate_ne_missingOperator (sequence : List Part) :
    evaluate bound record sequence ≠ .error .missingOperator := by
  intro h
  rcases Tree.starts_or_pending sequence with ⟨t, rest, rfl⟩ | ⟨pending, rfl⟩
  · cases t with
    | operand part plain =>
      rw [Tree.parts, List.singleton_append, evaluate_operand bound record plain] at h
      exact absurd h (by simp)
    | apply symbol left right =>
      rw [evaluate_apply] at h
      exact Tree.value_ne_missingOperator h
  · rw [evaluate_pending] at h
    cases hfind : (pending.filterMap Tree.Pending.left).findSome? (Tree.error? bound record) with
    | none => simp [hfind] at h
    | some e =>
      -- The error is that of a left operand, and trees fail in other ways.
      obtain ⟨t, _, ht⟩ := List.exists_of_findSome?_eq_some hfind
      obtain rfl : e = .missingOperator := by simpa [hfind] using h
      cases hvalue : t.value bound record with
      | ok value => simp [Tree.error?_of_ok hvalue] at ht
      | error e =>
        obtain rfl : e = .missingOperator := by simpa [Tree.error?_of_error hvalue] using ht
        exact Tree.value_ne_missingOperator hvalue

/-- **Evaluation is the reading of prefix notation, on every sequence.** A sequence that begins
with an operand is refused. One that begins with an application has the value of that application,
whatever follows it. Any other sequence fails with the first error of the applications that are
complete, taken in the order in which they complete, and is incomplete if each of them has a
value; since operands complete before what they are operands of, that error is one the application
itself made. -/
theorem evaluate_reads_prefix (sequence : List Part) :
    (∀ part rest, sequence = part :: rest → part.isOperator = false →
      evaluate bound record sequence = .error .missingOperand) ∧
    (∀ symbol left right, (Tree.apply symbol left right).parts <+: sequence →
      evaluate bound record sequence = (Tree.apply symbol left right).value bound record) ∧
    ((∀ t : Tree, ¬ t.parts <+: sequence) →
      evaluate bound record sequence =
        .error (((Tree.completed sequence).findSome? (Tree.error? bound record)).getD
          .incomplete)) ∧
    evaluate bound record sequence ≠ .error .missingOperator := by
  refine ⟨?_, ?_, ?_, evaluate_ne_missingOperator bound record sequence⟩
  · rintro part rest rfl plain
    exact evaluate_operand bound record plain rest
  · rintro symbol left right ⟨rest, rfl⟩
    exact evaluate_apply bound record symbol left right rest
  · intro hnone
    rcases Tree.starts_or_pending sequence with ⟨t, rest, rfl⟩ | ⟨pending, rfl⟩
    · exact absurd (List.prefix_append t.parts rest) (hnone t)
    · rw [evaluate_pending, Tree.completed_pending, Tree.findSome?_flatMap_applications]

end RuleLang
