import Mathlib.Data.List.TakeWhile
import RuleLang.CommandLine.Answer
import RuleLang.Proofs.Decimal.Notation

/-!
# What arguments make of a record

The first equals sign of an argument parts the name from the value, and an argument that has none,
or nothing but blanks before it, is refused (`readArgument_eq_ok_iff`, `refused_iff`). The
arguments are read one after the other onto the record of the data file. Main statement: **the first
argument that is refused is the failure, and where none is, a name has the value that the last
argument of that name gives it, or else what the data file says** (`first_refused_else_last_given`).
What a value is, is decided by its text alone, a number being what is a number in a rule.
-/

set_option autoImplicit false

namespace RuleLang

namespace Record

variable {argument name raw message : String}

/-! ## One argument -/

/-- An argument gives a name a value: the text `raw` behind its first equals sign. The name is what
stands before that, without the blanks around it. -/
def Gives (argument name raw : String) : Prop :=
  ∃ before, argument = before ++ "=" ++ raw ∧ '=' ∉ before.toList ∧ Text.trim before = name

/-- What an argument is refused for, as the message says it. -/
inductive Refused (argument : String) : String → Prop where
  | withoutValue (h : '=' ∉ argument.toList) :
    Refused argument ("Invalid field '" ++ argument ++ "': expected name=value")
  | withoutName {before raw : String} (h : argument = before ++ "=" ++ raw)
    (hblank : ∀ c ∈ before.toList, Text.isBlank c = true) :
    Refused argument ("Invalid field '" ++ argument ++ "': missing name")

theorem notMem_equals_iff {cs : List Char} : '=' ∉ cs ↔ ∀ c ∈ cs, (c != '=') = true := by
  simp only [bne_iff_ne]
  exact ⟨fun h c hc heq => h (heq ▸ hc), fun h hc => h '=' hc rfl⟩

theorem toList_equals (before raw : String) :
    (before ++ "=" ++ raw).toList = before.toList ++ '=' :: raw.toList := by
  simp

theorem takeWhile_equals {before : String} (h : '=' ∉ before.toList) (raw : String) :
    (before ++ "=" ++ raw).toList.takeWhile (· != '=') = before.toList := by
  rw [toList_equals, List.takeWhile_append_of_pos (notMem_equals_iff.mp h),
    List.takeWhile_cons_of_neg (by simp), List.append_nil]

theorem dropWhile_equals {before : String} (h : '=' ∉ before.toList) (raw : String) :
    (before ++ "=" ++ raw).toList.dropWhile (· != '=') = '=' :: raw.toList := by
  rw [toList_equals, List.dropWhile_append_of_pos (notMem_equals_iff.mp h),
    List.dropWhile_cons_of_neg (by simp)]

/-- An argument without an equals sign has no first one, any other has. -/
theorem notMem_or_exists_equals (argument : String) :
    '=' ∉ argument.toList ∨
      ∃ before raw, argument = before ++ "=" ++ raw ∧ '=' ∉ before.toList := by
  refine (Decidable.em ('=' ∈ argument.toList)).symm.imp_right fun h => ?_
  obtain ⟨before, raw, heq, hbefore⟩ := List.eq_append_cons_of_mem h
  refine ⟨String.ofList before, String.ofList raw, ?_, by rwa [String.toList_ofList]⟩
  rw [← String.toList_inj, toList_equals, heq, String.toList_ofList, String.toList_ofList]

/-- There is one first equals sign, so an argument gives one value to one name. -/
theorem Gives.unique {name' raw' : String} (h : Gives argument name raw)
    (h' : Gives argument name' raw') : name = name' ∧ raw = raw' := by
  obtain ⟨before, heq, hbefore, rfl⟩ := h
  obtain ⟨before', heq', hbefore', rfl⟩ := h'
  have hsame : before ++ "=" ++ raw = before' ++ "=" ++ raw' := heq.symm.trans heq'
  have hname : before.toList = before'.toList := by
    rw [← takeWhile_equals hbefore raw, hsame, takeWhile_equals hbefore']
  have hraw : '=' :: raw.toList = '=' :: raw'.toList := by
    rw [← dropWhile_equals hbefore raw, hsame, dropWhile_equals hbefore']
  exact ⟨by rw [String.toList_inj.mp hname], String.toList_inj.mp (List.cons.inj hraw).2⟩

theorem readArgument_of_notMem (h : '=' ∉ argument.toList) :
    readArgument argument = .error (.withoutValue argument) := by
  rw [readArgument, List.dropWhile_eq_nil_iff.mpr (notMem_equals_iff.mp h)]

theorem readArgument_of_equals {before : String} (h : '=' ∉ before.toList) (raw : String) :
    readArgument (before ++ "=" ++ raw) =
      if Text.trim before = "" then .error (.withoutName (before ++ "=" ++ raw))
      else .ok (Text.trim before, argumentValue raw) := by
  rw [readArgument, dropWhile_equals h]
  simp only [takeWhile_equals h, String.ofList_toList, List.isEmpty_iff, Text.trim_eq_empty_iff]
  rfl

/-- **What is read of an argument** is the name and the value it gives, if the name is not blank. -/
theorem readArgument_eq_ok_iff {entry : String × Value} :
    readArgument argument = .ok entry ↔
      ∃ raw, Gives argument entry.1 raw ∧ entry.1 ≠ "" ∧ entry.2 = argumentValue raw := by
  constructor
  · intro h
    rcases notMem_or_exists_equals argument with hnone | ⟨before, raw, rfl, hbefore⟩
    · exact absurd (readArgument_of_notMem hnone ▸ h) (by simp)
    · rw [readArgument_of_equals hbefore] at h
      split at h
      · exact absurd h (by simp)
      · next hname =>
        obtain rfl := Except.ok.inj h
        exact ⟨raw, ⟨before, rfl, hbefore, rfl⟩, hname, rfl⟩
  · rintro ⟨raw, ⟨before, rfl, hbefore, htrim⟩, hname, hvalue⟩
    rw [readArgument_of_equals hbefore, htrim, if_neg hname, ← hvalue]

/-- **An argument is refused exactly if it cannot be read**, with the message of the error. -/
theorem refused_iff :
    Refused argument message ↔ ∃ e, readArgument argument = .error e ∧ e.message = message := by
  constructor
  · intro h
    cases h with
    | withoutValue hnone => exact ⟨_, readArgument_of_notMem hnone, rfl⟩
    | @withoutName before raw heq hblank =>
      have hbefore : '=' ∉ before.toList := fun hmem => absurd (hblank '=' hmem) (by decide)
      have hname : Text.trim before = "" :=
        Text.trim_eq_empty_iff.mpr (Text.trimmed_eq_nil_iff.mpr hblank)
      refine ⟨.withoutName argument, ?_, rfl⟩
      rw [heq, readArgument_of_equals hbefore, if_pos hname]
  · rintro ⟨e, h, rfl⟩
    rcases notMem_or_exists_equals argument with hnone | ⟨before, raw, rfl, hbefore⟩
    · obtain rfl := Except.error.inj ((readArgument_of_notMem hnone).symm.trans h)
      exact .withoutValue hnone
    · rw [readArgument_of_equals hbefore] at h
      split at h
      · next hname =>
        obtain rfl := Except.error.inj h
        exact .withoutName rfl (Text.trimmed_eq_nil_iff.mp (Text.trim_eq_empty_iff.mp hname))
      · exact absurd h (by simp)

theorem not_refused_iff :
    (∀ fault, ¬ Refused argument fault) ↔ ∃ entry, readArgument argument = .ok entry := by
  simp only [refused_iff]
  cases readArgument argument with
  | ok entry => simp
  | error e => simp

/-! ## The value of an argument -/

theorem asNumber?_boolText (b : Bool) : (Value.text (Value.boolText b)).asNumber? = none := by
  cases b <;> decide

theorem argumentValue_boolText (b : Bool) : argumentValue (Value.boolText b) = .boolean b := by
  cases b <;> rfl

/-- A text that is not the one of a boolean is a number if it is one in a rule, or else itself. -/
theorem argumentValue_of_ne (h : ∀ b, raw ≠ Value.boolText b) :
    argumentValue raw = ((Value.text raw).asNumber?.map Value.number).getD (.text raw) := by
  have htrue : raw ≠ "true" := h true
  have hfalse : raw ≠ "false" := h false
  rw [argumentValue, if_neg htrue, if_neg hfalse, Value.asNumber?_text]
  cases Decimal.ofText? (Text.trim raw) <;> rfl

theorem argumentValue_eq_boolean_iff {b : Bool} :
    argumentValue raw = .boolean b ↔ raw = Value.boolText b := by
  by_cases hbool : ∃ b', raw = Value.boolText b'
  · obtain ⟨b', rfl⟩ := hbool
    rw [argumentValue_boolText]
    cases b <;> cases b' <;> decide
  · rw [argumentValue_of_ne (not_exists.mp hbool)]
    refine iff_of_false ?_ fun h => hbool ⟨b, h⟩
    cases (Value.text raw).asNumber? <;> simp

/-- **An argument is a number exactly if its text is one in a rule.** -/
theorem argumentValue_eq_number_iff {d : Decimal} :
    argumentValue raw = .number d ↔ (Value.text raw).asNumber? = some d := by
  by_cases hbool : ∃ b, raw = Value.boolText b
  · obtain ⟨b, rfl⟩ := hbool
    simp [argumentValue_boolText, asNumber?_boolText]
  · rw [argumentValue_of_ne (not_exists.mp hbool)]
    cases (Value.text raw).asNumber? <;> simp

/-! ## All arguments -/

variable {record result : Record} {arguments before after : List String}

theorem addArguments_cons (record : Record) (argument : String) (rest : List String) :
    addArguments record (argument :: rest) =
      (readArgument argument).bind fun entry =>
        addArguments (record.insert entry.1 entry.2) rest := rfl

/-- One step: the first argument is read and its field set. -/
theorem addArguments_cons_eq_ok_iff {rest : List String} :
    addArguments record (argument :: rest) = .ok result ↔
      ∃ name raw, Gives argument name raw ∧ name ≠ "" ∧
        addArguments (record.insert name (argumentValue raw)) rest = .ok result := by
  rw [addArguments_cons]
  constructor
  · intro h
    cases hread : readArgument argument with
    | error e => exact absurd (hread ▸ h) (by simp [Except.bind])
    | ok entry =>
      obtain ⟨raw, hgives, hname, hvalue⟩ := readArgument_eq_ok_iff.mp hread
      rw [hread, Except.bind, hvalue] at h
      exact ⟨entry.1, raw, hgives, hname, h⟩
  · rintro ⟨name, raw, hgives, hname, h⟩
    have hread : readArgument argument = .ok (name, argumentValue raw) :=
      readArgument_eq_ok_iff.mpr ⟨raw, hgives, hname, rfl⟩
    rw [hread]
    exact h

theorem addArguments_append (record : Record) (before after : List String) :
    addArguments record (before ++ after) =
      (addArguments record before).bind fun middle => addArguments middle after := by
  induction before generalizing record with
  | nil => rfl
  | cons argument before ih =>
    rw [List.cons_append, addArguments_cons, addArguments_cons]
    cases readArgument argument with
    | error e => rfl
    | ok entry => exact ih _

/-- Arguments of which none is refused make a record. -/
theorem exists_addArguments (h : ∀ argument ∈ arguments, ∀ fault, ¬ Refused argument fault)
    (record : Record) : ∃ result, addArguments record arguments = .ok result := by
  induction arguments generalizing record with
  | nil => exact ⟨record, rfl⟩
  | cons argument arguments ih =>
    obtain ⟨hfirst, hrest⟩ := List.forall_mem_cons.mp h
    obtain ⟨entry, hentry⟩ := not_refused_iff.mp hfirst
    obtain ⟨result, hresult⟩ := ih hrest (record.insert entry.1 entry.2)
    refine ⟨result, ?_⟩
    rw [addArguments_cons, hentry]
    exact hresult

/-- **The first argument that is refused is the error**, whatever follows it. -/
theorem addArguments_of_refused (record : Record)
    (hbefore : ∀ earlier ∈ before, ∀ fault, ¬ Refused earlier fault)
    (h : Refused argument message) (after : List String) :
    ∃ e, addArguments record (before ++ argument :: after) = .error e ∧ e.message = message := by
  obtain ⟨middle, hmiddle⟩ := exists_addArguments hbefore record
  obtain ⟨e, hread, hmessage⟩ := refused_iff.mp h
  refine ⟨e, ?_, hmessage⟩
  rw [addArguments_append, hmiddle, Except.bind, addArguments_cons, hread]
  rfl

/-- A name that no argument gives keeps what it had. -/
theorem get?_of_not_given (h : addArguments record arguments = .ok result)
    (hnone : ∀ argument ∈ arguments, ∀ raw, ¬ Gives argument name raw) :
    result.get? name = record.get? name := by
  induction arguments generalizing record with
  | nil => rw [Except.ok.inj h]
  | cons argument arguments ih =>
    obtain ⟨hfirst, hrest⟩ := List.forall_mem_cons.mp hnone
    obtain ⟨other, raw, hgives, -, hadded⟩ := addArguments_cons_eq_ok_iff.mp h
    have hne : name ≠ other := by
      rintro rfl
      exact hfirst raw hgives
    rw [ih hadded hrest, SortedMap.get?_insert, if_neg (by simpa using hne)]

/-- **The last argument that gives a name counts.** -/
theorem get?_of_last_given (h : addArguments record (before ++ argument :: after) = .ok result)
    (hgives : Gives argument name raw)
    (hlater : ∀ later ∈ after, ∀ other, ¬ Gives later name other) :
    result.get? name = some (argumentValue raw) := by
  rw [addArguments_append] at h
  cases hmiddle : addArguments record before with
  | error e => exact absurd (hmiddle ▸ h) (by simp [Except.bind])
  | ok middle =>
    rw [hmiddle] at h
    obtain ⟨name', raw', hgives', -, hadded⟩ := addArguments_cons_eq_ok_iff.mp h
    obtain ⟨rfl, rfl⟩ := hgives.unique hgives'
    rw [get?_of_not_given hadded hlater, SortedMap.get?_insert, if_pos (by simp)]

end Record

/-! ## The record of a command -/

namespace CommandLine

open Record

variable {files : Files} {data : Option String} {base : Record}

/-- With a data file, its record is read first and the arguments are added to it. -/
theorem loadRecord_some (files : Files) (arguments : List String) (file : String) :
    loadRecord files arguments (some file) =
      ((orFail (.unreadableData file) (files file)).bind fun text =>
        failing (fun cause => .rule (.invalidRecord cause)) (Record.ofText text)).bind fun record =>
          failing .argument (record.addArguments arguments) := by
  unfold loadRecord
  simp only
  cases orFail (.unreadableData file) (files file) <;> rfl

/-- The arguments are added to what the data file gives by itself. -/
theorem loadRecord_of_data (hdata : loadRecord files [] data = .ok base)
    (arguments : List String) :
    loadRecord files arguments data = failing .argument (base.addArguments arguments) := by
  cases data with
  | none =>
    obtain rfl := Except.ok.inj hdata
    rfl
  | some file =>
    rw [loadRecord_some] at hdata ⊢
    generalize (orFail (.unreadableData file) (files file)).bind _ = read at hdata ⊢
    cases read with
    | error failure => exact absurd hdata (by simp [Except.bind])
    | ok record =>
      obtain rfl := Except.ok.inj hdata
      rfl

/-- **What a command line makes of its arguments.** The first argument that is refused is the
failure, with the message that says why. If none is, the value of a name is that of the last
argument that gives it, and what the data file says if none does. A value is a boolean for the two
texts of booleans, a number for the texts that are numbers in a rule, in either notation and with
blanks around them, and the text itself for all others: the two readers, that of rules and that of
arguments, take the same texts for numbers. -/
theorem first_refused_else_last_given (hdata : loadRecord files [] data = .ok base)
    (arguments : List String) :
    (∀ before argument after message, arguments = before ++ argument :: after →
      (∀ earlier ∈ before, ∀ fault, ¬ Refused earlier fault) → Refused argument message →
        ∃ e, loadRecord files arguments data = .error (.argument e) ∧ e.message = message) ∧
    ((∀ argument ∈ arguments, ∀ fault, ¬ Refused argument fault) →
      ∃ record, loadRecord files arguments data = .ok record ∧
        (∀ before argument after name raw, arguments = before ++ argument :: after →
          Gives argument name raw → (∀ later ∈ after, ∀ other, ¬ Gives later name other) →
            record.get? name = some (argumentValue raw)) ∧
        ∀ name, (∀ argument ∈ arguments, ∀ raw, ¬ Gives argument name raw) →
          record.get? name = base.get? name) ∧
    ∀ raw : String,
      (argumentValue raw = .boolean true ↔ raw = "true") ∧
      (argumentValue raw = .boolean false ↔ raw = "false") ∧
      (∀ d, argumentValue raw = .number d ↔ (Value.text raw).asNumber? = some d) ∧
      (raw ≠ "true" → raw ≠ "false" → (Value.text raw).asNumber? = none →
        argumentValue raw = .text raw) ∧
      (Value.text raw).asNumber? = Decimal.ofTextOrScientific? (Text.trim raw) ∧
      (Value.text raw).asNumber? = Decimal.ofText? (Text.trim raw) ∧
      (∀ d, (Value.text raw).asNumber? = some d ↔
        Decimal.plain? (Text.trimmed raw.toList) = some d ∨
          Decimal.scientific? (Text.trimmed raw.toList) = some d) ∧
      ∀ before after : String, (∀ c ∈ before.toList, Text.isBlank c = true) →
        (∀ c ∈ after.toList, Text.isBlank c = true) →
          (Value.text (before ++ raw ++ after)).asNumber? = (Value.text raw).asNumber? := by
  rw [loadRecord_of_data hdata]
  refine ⟨?_, ?_, fun raw => ⟨argumentValue_eq_boolean_iff, argumentValue_eq_boolean_iff,
    fun d => argumentValue_eq_number_iff, ?_, rfl, Value.asNumber?_text raw,
    fun d => Value.asNumber?_text_eq_some_iff, fun before after hbefore hafter =>
      Value.asNumber?_text_append_blanks hbefore hafter raw⟩⟩
  · rintro before argument after message rfl hbefore hrefused
    obtain ⟨e, he, hmessage⟩ := addArguments_of_refused base hbefore hrefused after
    exact ⟨e, by rw [he]; rfl, hmessage⟩
  · intro hnone
    obtain ⟨record, hrecord⟩ := exists_addArguments hnone base
    refine ⟨record, by rw [hrecord]; rfl, ?_, fun name => get?_of_not_given hrecord⟩
    rintro before argument after name raw rfl hgives hlater
    exact get?_of_last_given hrecord hgives hlater
  · intro htrue hfalse hnumber
    rw [argumentValue_of_ne (Bool.forall_bool.mpr ⟨hfalse, htrue⟩), hnumber]
    rfl

/-- A field of the data file that is given anew twice, the second time in scientific notation, with
one that is left as it is; and a list of arguments of which the second and the third are refused. -/
theorem first_refused_else_last_given_of_age :
    let files : Files := fun file =>
      if file = "record.json" then some "\x7b\"age\": 36, \"name\": \"Ada\"\x7d" else none
    (∃ record, loadRecord files ["age=60", " age =6.1e1", "note= a=b "] (some "record.json") =
        .ok record ∧
      record.get? "age" = some (.number ⟨false, 61, 0, by decide, by decide⟩) ∧
      record.get? "note" = some (.text " a=b ") ∧ record.get? "name" = some (.text "Ada")) ∧
    ∃ e, loadRecord files ["age=60", " =3", "note"] (some "record.json") = .error (.argument e) ∧
      e.message = "Invalid field ' =3': missing name" := by
  intro files
  have hdata : loadRecord files [] (some "record.json") =
      .ok (.ofList [("age", .number ⟨false, 36, 0, by decide, by decide⟩),
        ("name", .text "Ada")]) := rfl
  have hsixty : Gives "age=60" "age" "60" := ⟨"age", rfl, by decide, rfl⟩
  have hage : Gives " age =6.1e1" "age" "6.1e1" := ⟨" age ", rfl, by decide, rfl⟩
  have hnote : Gives "note= a=b " "note" " a=b " := ⟨"note", rfl, by decide, rfl⟩
  constructor
  · have hread : ∀ argument ∈ ["age=60", " age =6.1e1", "note= a=b "],
        ∀ fault, ¬ Refused argument fault := by
      intro argument hmem
      rw [not_refused_iff]
      simp only [List.mem_cons, List.not_mem_nil, or_false] at hmem
      rcases hmem with rfl | rfl | rfl <;> exact ⟨_, rfl⟩
    obtain ⟨record, hrecord, hgiven, hkept⟩ := (first_refused_else_last_given hdata _).2.1 hread
    refine ⟨record, hrecord, ?_, ?_, ?_⟩
    · refine hgiven ["age=60"] _ ["note= a=b "] "age" "6.1e1" rfl hage ?_
      intro later hlater other h
      obtain rfl := List.mem_singleton.mp hlater
      exact absurd (h.unique hnote).1 (by decide)
    · exact hgiven ["age=60", " age =6.1e1"] _ [] "note" " a=b " rfl hnote (by simp)
    · refine hkept "name" fun argument hmem raw h => ?_
      simp only [List.mem_cons, List.not_mem_nil, or_false] at hmem
      rcases hmem with rfl | rfl | rfl
      · exact absurd (h.unique hsixty).1 (by decide)
      · exact absurd (h.unique hage).1 (by decide)
      · exact absurd (h.unique hnote).1 (by decide)
  · refine (first_refused_else_last_given hdata _).1 ["age=60"] " =3" ["note"] _ rfl ?_ ?_
    · intro earlier hearlier
      obtain rfl := List.mem_singleton.mp hearlier
      exact not_refused_iff.mpr ⟨_, rfl⟩
    · have hparts : " =3" = " " ++ "=" ++ "3" := rfl
      have hblank : ∀ c ∈ " ".toList, Text.isBlank c = true := by
        intro c hc
        obtain rfl := List.mem_singleton.mp hc
        rfl
      exact .withoutName hparts hblank

end CommandLine

end RuleLang
