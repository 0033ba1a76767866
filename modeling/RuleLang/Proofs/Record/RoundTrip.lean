import RuleLang.Proofs.Decimal.Arithmetic
import RuleLang.Proofs.Record.Reading

/-!
# What comes back of a JSON object

A record is read from a JSON object and a field of it is written as JSON again. Nothing is lost by
reading a member that is exact (`Json.Exact`): a whole number of 64 bits, signed or unsigned, is
read as what it is. But whole numbers are written as integers in the signed range only, and as the
nearest double beyond it. Main statement: **an exact member comes back as it was if and only if it
is not a whole number from `2 ^ 63` on** (`exact_member_comes_back_iff`).
-/

set_option autoImplicit false

namespace RuleLang

/-! ## The double of a large whole number -/

theorem le_roundHalfEven {a num den : Nat} (hden : 0 < den) (h : a * den ≤ num) :
    a ≤ roundHalfEven num den := by
  have hquotient : a ≤ num / den := (Nat.le_div_iff_mul_le hden).mpr h
  unfold roundHalfEven
  simp only
  split <;> omega

theorem roundHalfEven_le {a num den : Nat} (hden : 0 < den) (h : num ≤ a * den) :
    roundHalfEven num den ≤ a := by
  rcases h.eq_or_lt with heq | hlt
  · rw [heq, roundHalfEven_mul a hden]
  · have hquotient : num / den < a := (Nat.div_lt_iff_lt_mul hden).mpr hlt
    unfold roundHalfEven
    simp only
    split <;> omega

namespace Binary64

variable {n k : Nat}

theorem log2_mul_pow {e : Nat} (hlow : 2 ^ e ≤ n) (hhigh : n < 2 ^ (e + 1)) (s : Nat) :
    Nat.log2 (n * Nat.pow 2 s) = e + s := by
  have hs : 0 < 2 ^ s := Nat.pow_pos (by decide)
  have hn : 0 < n := Nat.lt_of_lt_of_le (Nat.pow_pos (by decide)) hlow
  rw [Nat.pow_eq, Nat.log2_eq_iff (Nat.mul_pos hn hs).ne', Nat.pow_add, Nat.add_right_comm,
    Nat.pow_add]
  exact ⟨Nat.mul_le_mul_right _ hlow, Nat.mul_lt_mul_of_pos_right hhigh hs⟩

theorem roundHalfEven_mul_pow (n k s : Nat) :
    roundHalfEven (n * Nat.pow 2 s) (1 * Nat.pow 2 (k + s)) = roundHalfEven n (2 ^ k) := by
  rw [Nat.one_mul, Nat.pow_eq, Nat.pow_eq, Nat.pow_add]
  exact roundHalfEven_mul_right n (2 ^ k) (Nat.pow_pos (by decide))

/-- A whole number that has `k` bits more than a significand is rounded by as many. -/
theorem exists_ofNat? (hlow : 2 ^ (52 + k) ≤ n) (hhigh : n < 2 ^ (53 + k)) (hk : k ≤ 970) :
    ∃ x, ofNat? n = some x ∧ x.units = roundHalfEven n (2 ^ k) * 2 ^ k * Nat.pow 2 1074 := by
  have hden : 0 < 2 ^ k := Nat.pow_pos (by decide)
  have hleast : 2 ^ 52 ≤ roundHalfEven n (2 ^ k) := by
    refine le_roundHalfEven hden ?_
    rwa [← Nat.pow_add]
  have hgreatest : roundHalfEven n (2 ^ k) ≤ 2 ^ 53 := by
    refine roundHalfEven_le hden ?_
    rw [← Nat.pow_add]
    exact hhigh.le
  unfold ofNat? ofRatio?
  generalize hs : 1074 = s
  have hshift : Nat.log2 (n * Nat.pow 2 s / 1) - 52 = k + s := by
    rw [Nat.div_one, log2_mul_pow hlow (by rwa [Nat.add_right_comm])]
    omega
  simp only [hshift, roundHalfEven_mul_pow]
  have hlimit : k + s + 1 ≤ 2045 := by omega
  have hpow : 2 ^ k * Nat.pow 2 s = Nat.pow 2 (k + s) := (Nat.pow_add 2 k s).symm
  rw [Nat.mul_assoc, hpow]
  generalize k + s = shift at hlimit ⊢
  by_cases hcarry : roundHalfEven n (2 ^ k) = Nat.pow 2 53
  · -- The significand is rounded up to one bit more, which the shift takes over.
    rw [if_pos hcarry, ofParts?, dif_pos ⟨by decide, .inl (by decide), hlimit⟩]
    refine ⟨_, rfl, ?_⟩
    rw [units, hcarry]
    simp only [Nat.pow_eq, Nat.pow_succ]
    omega
  · rw [if_neg hcarry, ofParts?,
      dif_pos ⟨lt_of_le_of_ne hgreatest hcarry, .inl hleast, Nat.le_of_succ_le hlimit⟩]
    exact ⟨_, rfl, rfl⟩

/-- A fraction of zero is left out, whatever would be done with another one. -/
theorem fraction_zero (whole : Binary64) (rest : Binary64 → Option Binary64) :
    (do
      let fraction ← (← ofNat? 0).div? (← ofNat? 1)
      if fraction.isZero then some whole else rest fraction) = some whole := by
  obtain ⟨zero, one, hzero, hone, hquotient, hnone⟩ :
      ∃ zero one, ofNat? 0 = some zero ∧ ofNat? 1 = some one ∧ zero.div? one = some zero ∧
        zero.isZero = true :=
    ⟨default, ⟨Nat.pow 2 52, 1022, by decide, by decide, by decide⟩, by decide +kernel,
      by decide +kernel, by decide +kernel, rfl⟩
  -- Step by step, as the quotient itself must not be computed where the divisor is a variable.
  rw [hzero, hone, Option.bind_eq_bind, Option.bind_some, Option.bind_some, hquotient,
    Option.bind_some, if_pos hnone]

end Binary64

/-! ## Numbers as JSON -/

/-- The integers of 64 bits, signed or unsigned, are within the limit of decimals. -/
theorem Json.natAbs_lt_of_lt {n : Int} (hlow : -(Int.pow 2 63) ≤ n) (hhigh : n < Int.pow 2 64) :
    n.natAbs < Nat.pow 2 96 := by
  have hunsigned : Int.pow 2 64 < ((Nat.pow 2 96 : Nat) : Int) := by decide
  have hsigned : Int.pow 2 63 < ((Nat.pow 2 96 : Nat) : Int) := by decide
  omega

namespace Decimal

variable {d : Decimal} {n : Int}

theorem toBinary64?_of_scale (h : d.scale = 0) :
    d.toBinary64? = Binary64.ofNat? d.coefficient := by
  have hone : Nat.pow 10 d.scale = 1 := by rw [h]
  rw [toBinary64?]
  simp only [hone, Nat.div_one, Nat.mod_one, Binary64.fraction_zero]
  exact Option.bind_fun_some _

theorem normalize_wholeDecimal (h : n.natAbs < Nat.pow 2 96) :
    (Record.wholeDecimal n h).normalize = Record.wholeDecimal n h := by
  unfold normalize Record.wholeDecimal
  rw [Decimal.mk.injEq]
  refine ⟨?_, rfl, rfl⟩
  by_cases hn : n < 0
  · simp [hn, hn.ne]
  · simp [hn]

/-- The normal form of a decimal that is a whole number. -/
theorem normalize_of_value (hvalue : d.value = n) (h : n.natAbs < Nat.pow 2 96) :
    d.normalize = Record.wholeDecimal n h := by
  rw [← normalize_wholeDecimal h]
  exact normalize_congr (hvalue.trans (Record.value_wholeDecimal h).symm)

/-- **A number is written as an integer exactly if it is whole and within the signed range.** -/
theorem toJson_eq_integer_iff :
    d.toJson = .number (.integer n) ↔
      d.value = n ∧ -(Int.pow 2 63) ≤ n ∧ n < Int.pow 2 63 := by
  constructor
  · intro h
    unfold toJson at h
    simp only at h
    split at h
    · next hsigned =>
      obtain ⟨hscale, hrange⟩ := hsigned
      obtain rfl : d.normalize.signed = n := by simpa using h
      refine ⟨?_, hrange⟩
      rw [← value_normalize, value, hscale, pow_zero, div_one]
    · split at h <;> simp at h
  · rintro ⟨hvalue, hlow, hhigh⟩
    have hlimit := Json.natAbs_lt_of_lt hlow (hhigh.trans (by decide))
    unfold toJson
    simp only [normalize_of_value hvalue hlimit, Record.signed_wholeDecimal]
    rw [if_pos ⟨rfl, hlow, hhigh⟩]

/-- **A whole number that only an unsigned integer can hold is written as the nearest double.** The
doubles of that size are the multiples of 2048. -/
theorem toJson_of_large {n : Nat} (hvalue : d.value = n) (hlow : Nat.pow 2 63 ≤ n)
    (hhigh : n < Nat.pow 2 64) :
    ∃ x, d.toJson = .number (.double false x) ∧
      x.units = roundHalfEven n 2048 * 2048 * Nat.pow 2 1074 := by
  have hbeyond : ¬ (n : Int) < Int.pow 2 63 := not_lt.mpr (Int.ofNat_le.mpr hlow)
  have hsigned : -(Int.pow 2 63) ≤ (n : Int) :=
    (by decide : -(Int.pow 2 63) ≤ 0).trans n.cast_nonneg
  have hlimit := Json.natAbs_lt_of_lt hsigned (Int.ofNat_lt.mpr hhigh)
  obtain ⟨x, hx, hunits⟩ := Binary64.exists_ofNat? (k := 11) hlow hhigh (by decide)
  refine ⟨x, ?_, hunits⟩
  unfold toJson
  simp only [normalize_of_value hvalue hlimit, Record.signed_wholeDecimal]
  rw [if_neg fun hwhole => hbeyond hwhole.2.2, toBinary64?_of_scale rfl,
    show (Record.wholeDecimal n hlimit).coefficient = n from rfl, hx]
  rfl

end Decimal

/-! ## Exact members -/

/-- The values that a field can hold without loss: scalars other than doubles, and lists of texts.
The integers of a JSON text are those of 64 bits, signed or unsigned. -/
inductive Json.Exact : Json → Prop where
  | null : Exact .null
  | bool (b : Bool) : Exact (.bool b)
  | string (s : String) : Exact (.string s)
  | strings (items : List String) : Exact (.array (items.map .string))
  | integer (n : Int) (hlow : -(Int.pow 2 63) ≤ n) (hhigh : n < Int.pow 2 64) :
    Exact (.number (.integer n))

/-- A whole number above the signed integers of 64 bits. -/
def Json.AboveSigned (json : Json) : Prop :=
  ∃ n : Int, json = .number (.integer n) ∧ Int.pow 2 63 ≤ n

theorem Json.aboveSigned_integer_iff (n : Int) :
    (Json.number (.integer n)).AboveSigned ↔ Int.pow 2 63 ≤ n := by
  constructor
  · rintro ⟨m, hm, hle⟩
    obtain rfl : n = m := by simpa using hm
    exact hle
  · exact fun hle => ⟨n, rfl, hle⟩

namespace Record

variable {field : String} {json : Json} {value : Value}

theorem readField_integer {n : Int} (h : n.natAbs < Nat.pow 2 96) (field : String) :
    readField field (.number (.integer n)) = .ok (.number (wholeDecimal n h)) := by
  rw [readField, readNumber_integer]
  rfl

theorem readField_strings (items : List String) (field : String) :
    readField field (.array (items.map .string)) = .ok (.list items) := by
  have hitems : (items.map Json.string).mapM (readItem field) = .ok items :=
    mapM_eq_ok_iff.mpr (List.forall₂_map_left_iff.mpr (List.forall₂_same.mpr fun _ _ => rfl))
  rw [readField, hitems]
  rfl

theorem exists_readField (h : json.Exact) (field : String) :
    ∃ value, readField field json = .ok value := by
  cases h with
  | null => exact ⟨_, rfl⟩
  | bool b => exact ⟨_, rfl⟩
  | string s => exact ⟨_, rfl⟩
  | strings items => exact ⟨_, readField_strings items field⟩
  | integer n hlow hhigh => exact ⟨_, readField_integer (Json.natAbs_lt_of_lt hlow hhigh) field⟩

/-- **What is read from an exact member is written as that member**, if it is not above the signed
integers. -/
theorem toJson_eq_iff (h : json.Exact) (hread : readField field json = .ok value) :
    value.toJson = json ↔ ¬ json.AboveSigned := by
  cases h with
  | null =>
    obtain rfl := Except.ok.inj hread
    simp [Value.toJson, Json.AboveSigned]
  | bool b =>
    obtain rfl := Except.ok.inj hread
    simp [Value.toJson, Json.AboveSigned]
  | string s =>
    obtain rfl := Except.ok.inj hread
    simp [Value.toJson, Json.AboveSigned]
  | strings items =>
    rw [readField_strings] at hread
    obtain rfl := Except.ok.inj hread
    simp [Value.toJson, Json.AboveSigned]
  | integer n hlow hhigh =>
    rw [readField_integer (Json.natAbs_lt_of_lt hlow hhigh)] at hread
    obtain rfl := Except.ok.inj hread
    rw [Value.toJson, Decimal.toJson_eq_integer_iff, value_wholeDecimal,
      Json.aboveSigned_integer_iff, not_le]
    exact ⟨fun hwritten => hwritten.2.2, fun hlt => ⟨rfl, hlow, hlt⟩⟩

/-! ## The main statement -/

/-- **What comes back of a JSON object.** An object with exact members only is read. The field of
an exact member is written as that member exactly if it is not above the signed integers; there, the
field still is the number of the member, but is written as the double nearest to it. -/
theorem exact_member_comes_back_iff (members : List (String × Json)) :
    ((∀ name json, (SortedMap.ofList members).get? name = some json → json.Exact) →
      ∃ record, ofJson (.object members) = .ok record) ∧
    ∀ record, ofJson (.object members) = .ok record →
      ∀ name json, (SortedMap.ofList members).get? name = some json → json.Exact →
        ((record.field name).toJson = json ↔ ¬ json.AboveSigned) ∧
        ∀ n : Nat, json = .number (.integer n) → Nat.pow 2 63 ≤ n →
          ∃ d x, record.field name = .number d ∧ d.value = n ∧
            (record.field name).toJson = .number (.double false x) ∧
              x.units = roundHalfEven n 2048 * 2048 * Nat.pow 2 1074 := by
  refine ⟨fun hexact => exists_ofJson fun name json hget => ?_, ?_⟩
  · exact exists_readField (hexact name json hget) name
  · intro record hrecord name json hget hexact
    obtain ⟨value, hread⟩ := exists_readField hexact name
    rw [field_of_ofJson hrecord hget hread]
    refine ⟨toJson_eq_iff hexact hread, ?_⟩
    rintro n rfl hlow
    have hrange : -(Int.pow 2 63) ≤ (n : Int) ∧ (n : Int) < Int.pow 2 64 := by
      cases hexact with
      | integer _ hlow hhigh => exact ⟨hlow, hhigh⟩
    have hlimit := Json.natAbs_lt_of_lt hrange.1 hrange.2
    rw [readField_integer hlimit] at hread
    obtain rfl := Except.ok.inj hread
    have hvalue : (wholeDecimal n hlimit).value = n := by
      rw [value_wholeDecimal, Int.cast_natCast]
    have hhigh : n < Nat.pow 2 64 := Int.ofNat_lt.mp hrange.2
    obtain ⟨x, hx, hunits⟩ := Decimal.toJson_of_large hvalue hlow hhigh
    exact ⟨_, x, rfl, hvalue, hx, hunits⟩

/-- An object with a list of texts and the least and the greatest integer of a JSON text: the first
two come back, the third as a double that is larger by one. -/
theorem exact_member_comes_back_of_bounds :
    let members : List (String × Json) :=
      [("tags", .array (["vip", "7"].map .string)), ("least", .number (.integer (-(Int.pow 2 63)))),
        ("greatest", .number (.integer (Nat.pow 2 64 - 1 : Nat)))]
    ∃ record, ofJson (.object members) = .ok record ∧
      (record.field "tags").toJson = .array (["vip", "7"].map .string) ∧
      (record.field "least").toJson = .number (.integer (-(Int.pow 2 63))) ∧
      ∃ x, (record.field "greatest").toJson = .number (.double false x) ∧
        x.units = Nat.pow 2 64 * Nat.pow 2 1074 := by
  intro members
  have hget : ∀ name json, (SortedMap.ofList members).get? name = some json ↔
      (name, json) ∈ members := fun _ _ => SortedMap.get?_ofList_iff (by decide)
  have hexact : ∀ name json, (SortedMap.ofList members).get? name = some json → json.Exact := by
    intro name json hjson
    simp only [hget, members, List.mem_cons, List.not_mem_nil, or_false, Prod.mk.injEq] at hjson
    rcases hjson with ⟨-, rfl⟩ | ⟨-, rfl⟩ | ⟨-, rfl⟩
    · exact .strings _
    · exact .integer _ (by decide) (by decide)
    · exact .integer _ (by decide) (by decide)
  obtain ⟨record, hrecord⟩ := (exact_member_comes_back_iff members).1 hexact
  have hback := (exact_member_comes_back_iff members).2 record hrecord
  have htags := (hget "tags" _).mpr List.mem_cons_self
  have hleast := (hget "least" _).mpr (List.mem_cons_of_mem _ List.mem_cons_self)
  have hgreatest := (hget "greatest" (.number (.integer (Nat.pow 2 64 - 1 : Nat)))).mpr
    (List.mem_cons_of_mem _ (List.mem_cons_of_mem _ List.mem_cons_self))
  refine ⟨record, hrecord, ?_, ?_, ?_⟩
  · exact (hback _ _ htags (hexact _ _ htags)).1.mpr (by simp [Json.AboveSigned])
  · refine (hback _ _ hleast (hexact _ _ hleast)).1.mpr ?_
    rw [Json.aboveSigned_integer_iff]
    decide
  · obtain ⟨-, x, -, -, hx, hunits⟩ :=
      (hback _ _ hgreatest (hexact _ _ hgreatest)).2 _ rfl (by decide)
    have hround : roundHalfEven (Nat.pow 2 64 - 1) 2048 * 2048 = Nat.pow 2 64 := by decide
    refine ⟨x, hx, ?_⟩
    rw [hunits, hround]

/-- **Not every exact member comes back as it was**: the greatest integer does not. -/
theorem greatest_integer_is_lost :
    ¬ ∀ (members : List (String × Json)) (record : Record) (name : String) (json : Json),
      ofJson (.object members) = .ok record → (SortedMap.ofList members).get? name = some json →
        json.Exact → (record.field name).toJson = json := by
  intro hclaim
  let greatest : Json := .number (.integer (Nat.pow 2 64 - 1 : Nat))
  have hexact : greatest.Exact := .integer _ (by decide) (by decide)
  have habove : greatest.AboveSigned := (Json.aboveSigned_integer_iff _).mpr (by decide)
  have hget : ∀ name json, (SortedMap.ofList [("n", greatest)]).get? name = some json ↔
      name = "n" ∧ json = greatest := by
    intro name json
    rw [SortedMap.get?_ofList_iff (by simp), List.mem_singleton, Prod.mk.injEq]
  obtain ⟨record, hrecord⟩ := exists_ofJson fun name json hjson => by
    rw [((hget name json).mp hjson).2]
    exact exists_readField hexact name
  obtain ⟨value, hread⟩ := exists_readField hexact "n"
  have hn := (hget "n" greatest).mpr ⟨rfl, rfl⟩
  have hback := hclaim _ record "n" greatest hrecord hn hexact
  rw [field_of_ofJson hrecord hn hread] at hback
  exact (toJson_eq_iff hexact hread).mp hback habove

end Record

end RuleLang
