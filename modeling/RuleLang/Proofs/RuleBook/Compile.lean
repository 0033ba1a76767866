import RuleLang.Operator.MatcherSize
import RuleLang.Proofs.Operator.Entries
import RuleLang.Proofs.Rule.Acceptance

/-!
# Compiling with a rule book

A rule book adds a limit on the length of a text and prepares the matcher of its table. Where there
is a matcher, what is compiled is not changed by that; where there can be none, nothing is compiled.
Main statement: **which texts compile, and to what, is a matter of their shape**
(`compile_by_shape`): it takes the limits and the signature of the operators to tell, and no
operator is asked what it computes.

There can be no matcher if the table has a symbol that is too long (`compile_of_long_symbol`), and
nothing but the builder of matchers keeps a symbol from being that long.
-/

set_option autoImplicit false

namespace RuleLang

namespace OperatorTable

/-! Preparing the matcher changes nothing that a rule is compiled with. -/

theorem segment_prepared (t : OperatorTable) (rule : String) :
    t.prepared.segment rule = t.segment rule :=
  segment_congr rfl (fun _ => rfl) rule

theorem ofParts_prepared (t : OperatorTable) (limits : Limits) (source : String)
    (parts : List Part) :
    PrefixForm.ofParts t.prepared limits source parts =
      PrefixForm.ofParts t limits source parts := by
  have hpriority (symbol : String) : t.prepared.priority symbol = t.priority symbol := rfl
  exact PrefixForm.ofParts_congr hpriority limits source parts

end OperatorTable

namespace RuleBook

section Builder

variable [MatcherBuilder] {book : RuleBook} {source : String}

/-- The prefix form that a text has with the operators and limits of a book. -/
def prefixForm (book : RuleBook) (source : String) : Except RuleError (List Part) :=
  PrefixForm.ofParts book.operators book.limits source (book.operators.segment source)

theorem compile_of_le (h : source.utf8ByteSize ≤ book.limits.maxRuleBytes) :
    (book.compile source).1 =
      book.operators.prepare.bind fun table => Rule.ofText table book.limits source := by
  unfold compile
  rw [if_neg (Nat.not_lt.mpr h)]
  cases book.operators.prepare <;> rfl

theorem compile_of_accepted (h : source.utf8ByteSize ≤ book.limits.maxRuleBytes)
    (haccepted : book.operators.refusal? = none) :
    (book.compile source).1 = Rule.ofText book.operators.prepared book.limits source := by
  rw [compile_of_le h, OperatorTable.prepare_eq_ok_iff.mpr ⟨haccepted, rfl⟩]
  rfl

/-- Where there can be no matcher, a text that is not too long is not cut. -/
theorem compile_of_refusal (h : source.utf8ByteSize ≤ book.limits.maxRuleBytes) {reason : String}
    (hrefusal : book.operators.refusal? = some reason) :
    (book.compile source).1 = .error (OperatorTable.refused reason) := by
  rw [compile_of_le h, OperatorTable.prepare_eq_error_iff.mpr ⟨reason, hrefusal, rfl⟩]
  rfl

theorem compile_of_lt (h : book.limits.maxRuleBytes < source.utf8ByteSize) :
    (book.compile source).1 =
      .error (.limitExceeded .ruleBytes book.limits.maxRuleBytes source.utf8ByteSize) := by
  unfold compile
  rw [if_pos h]

theorem compile_eq_ok_iff {rule : Rule} :
    (book.compile source).1 = .ok rule ↔
      source.utf8ByteSize ≤ book.limits.maxRuleBytes ∧ book.operators.refusal? = none ∧
      ∃ sequence, book.prefixForm source = .ok sequence ∧ BeginsWithApplication sequence ∧
        rule = ⟨source, sequence, book.operators.bindings sequence⟩ := by
  rcases Nat.lt_or_ge book.limits.maxRuleBytes source.utf8ByteSize with hlt | hle
  · rw [compile_of_lt hlt]
    simp [Nat.not_le.mpr hlt]
  · cases hrefusal : book.operators.refusal? with
    | some reason =>
      rw [compile_of_refusal hle hrefusal]
      simp
    | none =>
      rw [compile_of_accepted hle hrefusal, Rule.ofText_eq_ok_iff, OperatorTable.segment_prepared,
        OperatorTable.ofParts_prepared]
      simp only [hle, true_and]
      rfl

theorem compile_eq_error_iff {e : RuleError} :
    (book.compile source).1 = .error e ↔
      (book.limits.maxRuleBytes < source.utf8ByteSize ∧
        e = .limitExceeded .ruleBytes book.limits.maxRuleBytes source.utf8ByteSize) ∨
      (source.utf8ByteSize ≤ book.limits.maxRuleBytes ∧
        ∃ reason, book.operators.refusal? = some reason ∧ e = OperatorTable.refused reason) ∨
      (source.utf8ByteSize ≤ book.limits.maxRuleBytes ∧ book.operators.refusal? = none ∧
        book.prefixForm source = .error e) ∨
      (source.utf8ByteSize ≤ book.limits.maxRuleBytes ∧ book.operators.refusal? = none ∧
        ∃ sequence, book.prefixForm source = .ok sequence ∧ ¬ BeginsWithApplication sequence ∧
          e = .invalidExpression (.rule source)) := by
  rcases Nat.lt_or_ge book.limits.maxRuleBytes source.utf8ByteSize with hlt | hle
  · rw [compile_of_lt hlt]
    simp [Nat.not_le.mpr hlt, hlt, eq_comm]
  · cases hrefusal : book.operators.refusal? with
    | some reason =>
      rw [compile_of_refusal hle hrefusal]
      simp [hle, Nat.not_lt.mpr hle, eq_comm]
    | none =>
      rw [compile_of_accepted hle hrefusal, Rule.ofText_eq_error_iff,
        OperatorTable.segment_prepared, OperatorTable.ofParts_prepared]
      simp only [hle, true_and, Nat.not_lt.mpr hle, false_and, false_or, reduceCtorEq,
        exists_false]
      rfl

/-- Tables of one signature give a text one prefix form. -/
theorem prefixForm_of_signature {other : RuleBook} (hlimits : other.limits = book.limits)
    (hbook : book.operators.Reachable) (hother : other.operators.Reachable)
    (hsignature : other.operators.signature = book.operators.signature) :
    other.prefixForm source = book.prefixForm source := by
  have hmatcher : other.operators.currentMatcher = book.operators.currentMatcher := by
    rw [OperatorTable.currentMatcher_of_reachable hother,
      OperatorTable.currentMatcher_of_reachable hbook,
      OperatorTable.symbols_of_signature hsignature]
  have hsegment := OperatorTable.segment_congr hmatcher
    (OperatorTable.contains_of_signature hsignature) source
  unfold prefixForm
  rw [hsegment, hlimits]
  exact PrefixForm.ofParts_congr (OperatorTable.priority_of_signature hsignature) _ _ _

theorem refusal?_of_signature {other : RuleBook} (hbook : book.operators.Reachable)
    (hother : other.operators.Reachable)
    (hsignature : other.operators.signature = book.operators.signature) :
    other.operators.refusal? = book.operators.refusal? := by
  rw [OperatorTable.refusal?_of_reachable hother, OperatorTable.refusal?_of_reachable hbook,
    OperatorTable.symbols_of_signature hsignature]

/-- Books whose tables have one signature compile the same texts, to the same prefix forms. -/
theorem sequence_of_signature {other : RuleBook} (hlimits : other.limits = book.limits)
    (hbook : book.operators.Reachable) (hother : other.operators.Reachable)
    (hsignature : other.operators.signature = book.operators.signature) :
    (other.compile source).1.map Rule.sequence = (book.compile source).1.map Rule.sequence := by
  have hform := @prefixForm_of_signature _ book source other hlimits hbook hother hsignature
  have hrefusal := refusal?_of_signature hbook hother hsignature
  cases hcompile : (book.compile source).1 with
  | ok rule =>
    obtain ⟨hle, haccepted, sequence, hsequence, hbegins, rfl⟩ := compile_eq_ok_iff.mp hcompile
    have hok : (other.compile source).1 =
        .ok ⟨source, sequence, other.operators.bindings sequence⟩ := by
      refine compile_eq_ok_iff.mpr ⟨?_, ?_, sequence, ?_, hbegins, rfl⟩
      · rw [hlimits]
        exact hle
      · rw [hrefusal]
        exact haccepted
      · rw [hform]
        exact hsequence
    rw [hok]
    rfl
  | error e =>
    have herror : (other.compile source).1 = .error e := by
      rw [compile_eq_error_iff, hform, hlimits, hrefusal]
      exact compile_eq_error_iff.mp hcompile
    rw [herror]

/-- **Which texts compile is a matter of their shape.** A text compiles exactly if it is short
enough, there is a matcher of the operators, and its prefix form begins with an application.
Otherwise it is too long, the operators are refused a matcher, its parentheses nest too deep, or it
is no valid expression. With other operators of the same spellings and priorities the answer is the
same, whatever they compute and wherever they fail. -/
theorem compile_by_shape (book : RuleBook) (source : String) :
    (∀ rule, (book.compile source).1 = .ok rule ↔
      source.utf8ByteSize ≤ book.limits.maxRuleBytes ∧ book.operators.refusal? = none ∧
      ∃ sequence, book.prefixForm source = .ok sequence ∧ BeginsWithApplication sequence ∧
        rule = ⟨source, sequence, book.operators.bindings sequence⟩) ∧
    (∀ e, (book.compile source).1 = .error e →
      (book.limits.maxRuleBytes < source.utf8ByteSize ∧
        e = .limitExceeded .ruleBytes book.limits.maxRuleBytes source.utf8ByteSize) ∨
      (source.utf8ByteSize ≤ book.limits.maxRuleBytes ∧
        ∃ reason, book.operators.refusal? = some reason ∧
          e = .engine ("Cannot build operator pattern: " ++ reason)) ∨
      (source.utf8ByteSize ≤ book.limits.maxRuleBytes ∧ book.operators.refusal? = none ∧
        book.prefixForm source = .error e ∧
        e = .limitExceeded .nestingDepth book.limits.maxNestingDepth
          (book.limits.maxNestingDepth + 1)) ∨
      (source.utf8ByteSize ≤ book.limits.maxRuleBytes ∧ book.operators.refusal? = none ∧
        (∀ sequence, book.prefixForm source = .ok sequence → ¬ BeginsWithApplication sequence) ∧
        e = .invalidExpression (.rule source))) ∧
    (∀ other : RuleBook, other.limits = book.limits →
      book.operators.Reachable → other.operators.Reachable →
      other.operators.signature = book.operators.signature →
        (other.compile source).1.map Rule.sequence =
          (book.compile source).1.map Rule.sequence) := by
  refine ⟨fun rule => compile_eq_ok_iff, ?_, fun other hlimits hbook hother hsignature =>
    sequence_of_signature hlimits hbook hother hsignature⟩
  intro e h
  rcases compile_eq_error_iff.mp h with hlong | hrefused | ⟨hle, haccepted, hparts⟩ |
    ⟨hle, haccepted, sequence, hparts, hno, he⟩
  · exact .inl hlong
  · exact .inr (.inl hrefused)
  · rcases PrefixForm.error_of_ofParts hparts with he | he
    · exact .inr (.inr (.inl ⟨hle, haccepted, hparts, he⟩))
    · refine .inr (.inr (.inr ⟨hle, haccepted, fun sequence hsequence => ?_, he⟩))
      rw [hparts] at hsequence
      exact absurd hsequence (by simp)
  · refine .inr (.inr (.inr ⟨hle, haccepted, fun sequence' hsequence => ?_, he⟩))
    obtain rfl : sequence = sequence' := Except.ok.inj (hparts.symm.trans hsequence)
    exact hno

end Builder

/-! ## Symbols that are too long

The builder that the program runs with takes the built-in operators, but not all symbols that can be
added to them. -/

theorem refusal?_builtin : OperatorTable.builtin.refusal? = none := by
  decide +kernel

variable {book added : RuleBook}

theorem addOperator_eq_ok_iff {symbol : String} {op : Operator} :
    book.addOperator symbol op = (.ok (), added) ↔
      ∃ t, book.operators.insert symbol op = .ok t ∧ added = { book with operators := t } := by
  unfold addOperator withOperators
  cases book.operators.insert symbol op with
  | error e => simp
  | ok t => simp [eq_comm]

theorem exists_addOperator (book : RuleBook) {symbol : String} (hsymbol : symbol ≠ "")
    (op : Operator) : ∃ added, book.addOperator symbol op = (.ok (), added) :=
  ⟨_, addOperator_eq_ok_iff.mpr ⟨_, OperatorTable.insert_eq_ok_iff.mpr ⟨hsymbol, rfl⟩, rfl⟩⟩

/-- **A symbol that is too long for a matcher keeps every text from being compiled.** -/
theorem compile_of_long_symbol (h : book.operators.Orderly) {symbol : String} {op : Operator}
    (hlong : MatcherBuilder.sizeLimit < MatcherBuilder.stateSize * symbol.utf8ByteSize)
    (hadd : book.addOperator symbol op = (.ok (), added)) {source : String}
    (hsource : source.utf8ByteSize ≤ book.limits.maxRuleBytes) :
    (added.compile source).1 = .error (OperatorTable.refused MatcherBuilder.tooLarge) := by
  obtain ⟨t, hinsert, rfl⟩ := addOperator_eq_ok_iff.mp hadd
  have horderly := OperatorTable.orderly_insert h hinsert
  have hmem : symbol ∈ t.symbols := by
    obtain ⟨-, rfl⟩ := OperatorTable.insert_eq_ok_iff.mp hinsert
    exact (OperatorTable.mem_symbols_iff horderly).mpr ⟨op, by simp [SortedMap.get?_insert]⟩
  refine @compile_of_refusal _ { book with operators := t } source hsource _ ?_
  rw [OperatorTable.refusal?_of_matcher_eq_none (OperatorTable.matcher_of_insert hinsert)]
  exact MatcherBuilder.refusal?_of_mem hmem hlong

/-- A symbol that is half a million characters long. -/
def longSymbol : String := String.ofList (List.replicate 500000 '@')

theorem utf8ByteSize_replicate (n : Nat) :
    (String.ofList (List.replicate n '@')).utf8ByteSize = n := by
  induction n with
  | zero => rfl
  | succ n ih =>
    have hone : (String.ofList ['@']).utf8ByteSize = 1 := by decide
    rw [List.replicate_succ, ← List.singleton_append, String.ofList_append,
      String.utf8ByteSize_append, ih, hone, Nat.add_comm]

theorem utf8ByteSize_longSymbol : longSymbol.utf8ByteSize = 500000 := utf8ByteSize_replicate 500000

theorem longSymbol_ne_empty : longSymbol ≠ "" := by
  intro hempty
  have hsize := utf8ByteSize_longSymbol
  rw [hempty] at hsize
  exact absurd hsize (by decide)

/-- A book to which that symbol is added compiles no text. -/
theorem compile_of_longSymbol (h : book.operators.Orderly) {op : Operator}
    (hadd : book.addOperator longSymbol op = (.ok (), added)) {source : String}
    (hsource : source.utf8ByteSize ≤ book.limits.maxRuleBytes) :
    (added.compile source).1 = .error (.engine ("Cannot build operator pattern: " ++
      "Compiled regex exceeds size limit of 10485760 bytes.")) := by
  have hlong : MatcherBuilder.sizeLimit <
      MatcherBuilder.stateSize * longSymbol.utf8ByteSize := by
    rw [utf8ByteSize_longSymbol]
    decide
  have hreason : MatcherBuilder.tooLarge =
      "Compiled regex exceeds size limit of 10485760 bytes." := by
    decide +kernel
  rw [compile_of_long_symbol h hlong hadd hsource, hreason]
  rfl

/-- With a symbol of half a million characters among the built-in operators, not even `1 + 1`
compiles, and the failure is neither of a limit of the book nor of the expression. -/
theorem compile_with_longSymbol :
    ∃ book : RuleBook, ({} : RuleBook).addOperator longSymbol ⟨1, Operator.add⟩ = (.ok (), book) ∧
      "1 + 1".utf8ByteSize ≤ book.limits.maxRuleBytes ∧
      (book.compile "1 + 1").1 = .error (.engine ("Cannot build operator pattern: " ++
        "Compiled regex exceeds size limit of 10485760 bytes.")) ∧
      (∀ rule, (book.compile "1 + 1").1 ≠ .ok rule) ∧
      (∀ limit allowed actual,
        (book.compile "1 + 1").1 ≠ .error (.limitExceeded limit allowed actual)) ∧
      ∀ subject, (book.compile "1 + 1").1 ≠ .error (.invalidExpression subject) := by
  obtain ⟨book, hadd⟩ := exists_addOperator {} longSymbol_ne_empty ⟨1, Operator.add⟩
  have hsize : "1 + 1".utf8ByteSize ≤ book.limits.maxRuleBytes := by
    obtain ⟨t, -, rfl⟩ := addOperator_eq_ok_iff.mp hadd
    show "1 + 1".utf8ByteSize ≤ ({} : RuleBook).limits.maxRuleBytes
    decide
  refine ⟨book, hadd, hsize, ?_⟩
  rw [compile_of_longSymbol OperatorTable.orderly_builtin hadd (by decide)]
  exact ⟨rfl, by simp, by simp, by simp⟩

end RuleBook

end RuleLang
