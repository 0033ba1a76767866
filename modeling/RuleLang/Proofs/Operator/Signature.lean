import RuleLang.Operator.Table
import RuleLang.PrefixForm
import RuleLang.Segment.Rule

/-!
# What is known of an operator but its function

The signature of a table has the spelling and the priority of every operator, not what the operator
computes. **Cutting a rule looks at the matcher and at which symbols there are** (`segment_congr`),
**and bringing it into prefix form at the priorities** (`ofParts_congr`); the signature has all of
that.
-/

set_option autoImplicit false

namespace RuleLang

namespace OperatorTable

/-- The spellings and priorities of the operators. -/
def signature (t : OperatorTable) : SortedMap String (String × Int) :=
  t.entries.map fun entry => (entry.symbol, entry.operator.priority)

/-! What is read off a table without its functions is read off its signature. -/

theorem contains_eq_signature (t : OperatorTable) (symbol : String) :
    t.contains symbol = (t.signature.get? (key symbol)).isSome := by
  rw [signature, SortedMap.get?_map, Option.isSome_map]
  rfl

theorem priority_eq_signature (t : OperatorTable) (symbol : String) :
    t.priority symbol = ((t.signature.get? (key symbol)).map Prod.snd).getD 0 := by
  rw [signature, SortedMap.get?_map, priority, get?, Option.map_map, Option.map_map]
  rfl

theorem symbols_eq_signature (t : OperatorTable) :
    t.symbols = t.signature.values.map Prod.fst := by
  unfold symbols signature SortedMap.values SortedMap.map
  simp

variable {t t' : OperatorTable}

theorem contains_of_signature (h : t.signature = t'.signature) (symbol : String) :
    t.contains symbol = t'.contains symbol := by
  rw [contains_eq_signature, h, ← contains_eq_signature]

theorem priority_of_signature (h : t.signature = t'.signature) (symbol : String) :
    t.priority symbol = t'.priority symbol := by
  rw [priority_eq_signature, h, ← priority_eq_signature]

theorem symbols_of_signature (h : t.signature = t'.signature) : t.symbols = t'.symbols := by
  rw [symbols_eq_signature, h, ← symbols_eq_signature]

/-- What the matcher finds tells a symbol, and looking it up whether it is one. -/
theorem operatorParts_of_recogniser
    (hmatcher : t.currentMatcher.recogniser = t'.currentMatcher.recogniser)
    (hcontains : ∀ symbol, t.contains symbol = t'.contains symbol) (text : List Char) :
    Segment.operatorParts t text = Segment.operatorParts t' text := by
  have hpart : Segment.operatorPart? t = Segment.operatorPart? t' := by
    funext piece
    cases piece with
    | gap text => rfl
    | found symbol => simp only [Segment.operatorPart?, hcontains]
  rw [Segment.operatorParts, Segment.operatorParts, hpart, hmatcher]

theorem segment_of_recogniser
    (hmatcher : t.currentMatcher.recogniser = t'.currentMatcher.recogniser)
    (hcontains : ∀ symbol, t.contains symbol = t'.contains symbol) (rule : String) :
    t.segment rule = t'.segment rule := by
  unfold segment Segment.ruleParts Segment.fieldParts
  simp only [operatorParts_of_recogniser hmatcher hcontains]

theorem segment_congr (hmatcher : t.currentMatcher = t'.currentMatcher)
    (hcontains : ∀ symbol, t.contains symbol = t'.contains symbol) (rule : String) :
    t.segment rule = t'.segment rule :=
  segment_of_recogniser (congrArg Matcher.recogniser hmatcher) hcontains rule

end OperatorTable

namespace PrefixForm

variable {t t' : OperatorTable}

theorem letGoTighter_congr (h : ∀ symbol, t.priority symbol = t'.priority symbol) (priority : Int)
    (held : List Held) : ∀ (output : List Part),
      letGoTighter t priority output held = letGoTighter t' priority output held := by
  induction held with
  | nil => exact fun _ => rfl
  | cons top held ih =>
    intro output
    cases top with
    | group => rfl
    | operator symbol => rw [letGoTighter, letGoTighter, h, ih]

theorem read_congr (h : ∀ symbol, t.priority symbol = t'.priority symbol) (limits : Limits)
    (source : String) : read t limits source = read t' limits source := by
  funext part state
  unfold read
  split
  · rfl
  · rfl
  · split
    · rw [h, letGoTighter_congr h]
    · rfl

/-- Only the priorities matter to a prefix form. -/
theorem ofParts_congr (h : ∀ symbol, t.priority symbol = t'.priority symbol) (limits : Limits)
    (source : String) (parts : List Part) :
    ofParts t limits source parts = ofParts t' limits source parts := by
  have hread : readAll t limits source parts = readAll t' limits source parts := by
    induction parts with
    | nil => rfl
    | cons part parts ih => rw [readAll, readAll, ih, read_congr h]
  rw [ofParts, ofParts, hread]

end PrefixForm

end RuleLang
