import Mathlib.Data.List.Forall2
import RuleLang.Record
import RuleLang.Proofs.Decimal.Written

/-!
# What a record is read as

A record is read member by member and a list item by item. So **each field of a record is what the
member of its name was read as** (`get?_of_ofJson`), and there is a record if every member can be
read (`exists_ofJson`). A whole number within the limit can be: its text is that of the decimal of
the same value (`readNumber_integer`).
-/

set_option autoImplicit false

namespace RuleLang

/-! ## Member by member -/

section MapM

variable {ε α β : Type} {f : α → Except ε β} {xs : List α} {ys : List β}

theorem mapM_eq_ok_iff :
    xs.mapM f = .ok ys ↔ List.Forall₂ (fun x y => f x = .ok y) xs ys := by
  induction xs generalizing ys with
  | nil =>
    rw [List.mapM_nil, List.forall₂_nil_left_iff]
    exact ⟨fun h => (Except.ok.inj h).symm, fun h => congrArg Except.ok h.symm⟩
  | cons x xs ih =>
    rw [List.mapM_cons, List.forall₂_cons_left_iff]
    constructor
    · intro h
      cases hx : f x with
      | error e => exact absurd (hx ▸ h) (by simp [bind, Except.bind])
      | ok y =>
        cases hxs : xs.mapM f with
        | error e => exact absurd (hx ▸ hxs ▸ h) (by simp [bind, Except.bind])
        | ok rest =>
          rw [hx, hxs] at h
          exact ⟨y, rest, rfl, ih.mp hxs, (Except.ok.inj h).symm⟩
    · rintro ⟨y, rest, hx, hrest, rfl⟩
      rw [hx, ih.mpr hrest]
      rfl

theorem mem_iff_of_mapM (h : xs.mapM f = .ok ys) {y : β} : y ∈ ys ↔ ∃ x ∈ xs, f x = .ok y := by
  have hall := mapM_eq_ok_iff.mp h
  clear h
  induction hall with
  | nil => simp
  | cons hx _ ih =>
    rw [List.mem_cons, List.exists_mem_cons_iff, hx, Except.ok.injEq, eq_comm]
    exact or_congr_right ih

theorem exists_mapM (h : ∀ x ∈ xs, ∃ y, f x = .ok y) : ∃ ys, xs.mapM f = .ok ys := by
  induction xs with
  | nil => exact ⟨[], rfl⟩
  | cons x xs ih =>
    obtain ⟨y, hy⟩ := h x List.mem_cons_self
    obtain ⟨ys, hys⟩ := ih fun other hother => h other (List.mem_cons_of_mem x hother)
    refine ⟨y :: ys, ?_⟩
    rw [List.mapM_cons, hy, hys]
    rfl

end MapM

namespace Record

variable {members : List (String × Json)} {record : Record} {name : String}

/-- What a member becomes: a field of the same name. -/
def readMember (member : String × Json) : Except Error (String × Value) :=
  (readField member.1 member.2).map fun value => (member.1, value)

theorem readMember_eq_ok_iff {member : String × Json} {entry : String × Value} :
    readMember member = .ok entry ↔
      entry.1 = member.1 ∧ readField member.1 member.2 = .ok entry.2 := by
  rw [readMember]
  cases readField member.1 member.2 with
  | error e => simp [Except.map]
  | ok value =>
    constructor
    · intro h
      obtain rfl := Except.ok.inj h
      exact ⟨rfl, rfl⟩
    · rintro ⟨hname, hvalue⟩
      rw [Except.map, Except.ok.inj hvalue, ← hname]

theorem ofJson_object (members : List (String × Json)) :
    ofJson (.object members) =
      ((SortedMap.ofList members).entries.mapM readMember).map SortedMap.ofList := rfl

theorem keys_of_mapM {entries : List (String × Json)} {fields : List (String × Value)}
    (h : entries.mapM readMember = .ok fields) :
    fields.map Prod.fst = entries.map Prod.fst := by
  have hall := mapM_eq_ok_iff.mp h
  clear h
  induction hall with
  | nil => rfl
  | cons hmember _ ih => rw [List.map_cons, List.map_cons, ih, (readMember_eq_ok_iff.mp hmember).1]

/-- **The fields of a record are what the members of the same names were read as.** -/
theorem get?_of_ofJson (h : ofJson (.object members) = .ok record) {value : Value} :
    record.get? name = some value ↔
      ∃ json, (SortedMap.ofList members).get? name = some json ∧
        readField name json = .ok value := by
  rw [ofJson_object] at h
  cases hfields : (SortedMap.ofList members).entries.mapM readMember with
  | error e =>
    rw [hfields] at h
    exact absurd h (by simp [Except.map])
  | ok fields =>
    rw [hfields] at h
    obtain rfl := Except.ok.inj h
    have hkeys : (fields.map Prod.fst).Nodup := by
      rw [keys_of_mapM hfields]
      exact SortedMap.nodup_keys _
    rw [SortedMap.get?_ofList_iff hkeys, mem_iff_of_mapM hfields]
    constructor
    · rintro ⟨⟨other, json⟩, hmem, hread⟩
      obtain ⟨rfl, hvalue⟩ := readMember_eq_ok_iff.mp hread
      exact ⟨json, SortedMap.mem_entries_iff.mp hmem, hvalue⟩
    · rintro ⟨json, hjson, hvalue⟩
      exact ⟨(name, json), SortedMap.mem_entries_iff.mpr hjson,
        readMember_eq_ok_iff.mpr ⟨rfl, hvalue⟩⟩

theorem field_of_ofJson (h : ofJson (.object members) = .ok record) {json : Json} {value : Value}
    (hget : (SortedMap.ofList members).get? name = some json)
    (hread : readField name json = .ok value) : record.field name = value := by
  rw [field, (get?_of_ofJson h).mpr ⟨json, hget, hread⟩]
  rfl

/-- There is a record if every member can be read. -/
theorem exists_ofJson
    (h : ∀ name json, (SortedMap.ofList members).get? name = some json →
      ∃ value, readField name json = .ok value) :
    ∃ record, ofJson (.object members) = .ok record := by
  have hmembers : ∀ member ∈ (SortedMap.ofList members).entries,
      ∃ entry, readMember member = .ok entry := by
    intro member hmember
    obtain ⟨value, hvalue⟩ := h member.1 member.2 (SortedMap.mem_entries_iff.mp hmember)
    exact ⟨(member.1, value), readMember_eq_ok_iff.mpr ⟨rfl, hvalue⟩⟩
  obtain ⟨fields, hfields⟩ := exists_mapM hmembers
  refine ⟨.ofList fields, ?_⟩
  rw [ofJson_object, hfields]
  rfl

/-! ## Numbers -/

/-- The scale of a whole number is within the limit of scales. -/
theorem whole_scale_le : 0 ≤ 28 := by decide

/-- The decimal of a whole number that is within the limit. -/
def wholeDecimal (n : Int) (h : n.natAbs < Nat.pow 2 96) : Decimal :=
  ⟨decide (n < 0), n.natAbs, 0, h, whole_scale_le⟩

variable {n : Int} (h : n.natAbs < Nat.pow 2 96)

theorem signed_wholeDecimal : (wholeDecimal n h).signed = n := by
  unfold Decimal.signed wholeDecimal
  simp only [decide_eq_true_eq]
  split <;> omega

theorem value_wholeDecimal : (wholeDecimal n h).value = n := by
  rw [Decimal.value, signed_wholeDecimal, wholeDecimal]
  simp

/-- **A whole number is read as the decimal of its value.** -/
theorem readNumber_integer (field : String) :
    readNumber field (.integer n) = .ok (wholeDecimal n h) := by
  have htext : (Json.Number.integer n).toText = (wholeDecimal n h).toText := by
    rw [Json.Number.toText, Json.Number.chars, Json.Number.integerText, Decimal.toText,
      Decimal.chars]
    simp [wholeDecimal]
  have hzero : (wholeDecimal n h).unsignedZero = wholeDecimal n h := by
    rw [Decimal.unsignedZero, wholeDecimal, Decimal.mk.injEq]
    refine ⟨?_, rfl, rfl⟩
    by_cases hn : n = 0 <;> simp [hn]
  rw [readNumber, htext, Decimal.ofTextOrScientific?_eq, Decimal.ofText?_toText, hzero]

theorem readItem_number_eq_ok_iff {field : String} {n : Json.Number} {item : String} :
    readItem field (.number n) = .ok item ↔
      ∃ d, readNumber field n = .ok d ∧ d.valueText = item := by
  rw [readItem]
  cases readNumber field n with
  | error e => simp [Except.map]
  | ok d => simp [Except.map]

/-- What is kept of a list of numbers is the texts of their values. -/
theorem exists_items_of_readField {field : String} {numbers : List Json.Number} {value : Value}
    (h : readField field (.array (numbers.map .number)) = .ok value) :
    ∃ items, value = .list items ∧
      ∀ item, item ∈ items ↔
        ∃ n ∈ numbers, ∃ d, readNumber field n = .ok d ∧ d.valueText = item := by
  rw [readField] at h
  cases hitems : (numbers.map Json.number).mapM (readItem field) with
  | error e =>
    rw [hitems] at h
    exact absurd h (by simp [Except.map])
  | ok items =>
    rw [hitems] at h
    refine ⟨items, (Except.ok.inj h).symm, fun item => ?_⟩
    simp only [mem_iff_of_mapM hitems, List.mem_map, exists_exists_and_eq_and,
      readItem_number_eq_ok_iff]

end Record

end RuleLang
