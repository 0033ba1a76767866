import Mathlib.Data.String.Basic

/-!
# The order of texts

Texts are compared character by character, by code point. In UTF-8 that is the same as comparing
them byte by byte (`lt_iff_bytes_lt`): the encodings of two characters differ at some byte, and the
first one at which they do is smaller for the smaller character (`encoded_lt_of_lt`).
-/

set_option autoImplicit false

namespace RuleLang.Text

/-- The bytes of a text in UTF-8. -/
def bytes (s : String) : List UInt8 := s.toUTF8.data.toList

theorem bytes_eq (s : String) : bytes s = s.toList.flatMap String.utf8EncodeChar := by
  rw [bytes, String.toUTF8_eq_toByteArray, ← String.utf8Encode_toList, List.utf8Encode]
  simp

theorem bytes_inj {s t : String} : bytes s = bytes t ↔ s = t := by
  rw [← String.toByteArray_inj, bytes, bytes, Array.toList_inj, ← ByteArray.ext_iff]
  rfl

/-- **The encodings of characters differ at a byte, and there as the characters do**, whatever
comes after them. -/
theorem encoded_lt_of_lt {c d : Char} (h : c < d) (cs ds : List UInt8) :
    String.utf8EncodeChar c ++ cs < String.utf8EncodeChar d ++ ds := by
  have hlt : c.val.toNat < d.val.toNat := h
  have hmax : d.val.toNat < 0x110000 := by
    rcases d.valid with hvalid | ⟨_, hvalid⟩
    · exact Nat.lt_trans hvalid (by decide)
    · exact hvalid
  unfold String.utf8EncodeChar
  generalize c.val.toNat = v at hlt ⊢
  generalize d.val.toNat = w at hlt hmax ⊢
  -- The bytes are the digits of the code points to the base 64, each with a mark of its place.
  have htwo (n : Nat) : n / 4096 = n / 64 / 64 := (Nat.div_div_eq_div_mul n 64 64).symm
  have hthree (n : Nat) : n / 262144 = n / 64 / 64 / 64 := by
    rw [Nat.div_div_eq_div_mul, Nat.div_div_eq_div_mul]
  have hbyte (n : Nat) (hn : n < 256) : (UInt8.ofNat n).toNat = n := UInt8.toNat_ofNat_of_lt' hn
  simp only [htwo, hthree]
  repeat' split
  all_goals
    simp (disch := omega) only [List.cons_append, List.nil_append, List.cons_lt_cons_iff,
      UInt8.lt_iff_toNat_lt, ← UInt8.toNat_inj, hbyte]
    omega

theorem encoded_lt (cs : List Char) : ∀ {ds : List Char}, cs < ds →
    cs.flatMap String.utf8EncodeChar < ds.flatMap String.utf8EncodeChar := by
  induction cs with
  | nil =>
    intro ds h
    cases ds with
    | nil => exact absurd h (List.lt_irrefl _)
    | cons d ds =>
      rw [List.flatMap_nil, List.flatMap_cons]
      cases hd : String.utf8EncodeChar d with
      | nil => exact absurd hd String.utf8EncodeChar_ne_nil
      | cons byte bytes => exact List.nil_lt_cons _ _
  | cons c cs ih =>
    intro ds h
    cases ds with
    | nil => exact absurd h (List.not_lt_nil _)
    | cons d ds =>
      rw [List.flatMap_cons, List.flatMap_cons]
      rcases List.cons_lt_cons_iff.mp h with hlt | ⟨rfl, hlt⟩
      · exact encoded_lt_of_lt hlt _ _
      · exact List.append_left_lt (ih hlt)

theorem bytes_lt_of_lt {s t : String} (h : s < t) : bytes s < bytes t := by
  rw [bytes_eq, bytes_eq]
  exact encoded_lt s.toList (String.lt_iff.mp h)

/-- **Texts are in the order of their bytes.** -/
theorem lt_iff_bytes_lt {s t : String} : s < t ↔ bytes s < bytes t := by
  refine ⟨bytes_lt_of_lt, fun h => ?_⟩
  rcases lt_trichotomy s t with hlt | rfl | hgt
  · exact hlt
  · exact absurd h (List.lt_irrefl _)
  · exact absurd h (List.lt_asymm (bytes_lt_of_lt hgt))

theorem compare_eq_bytes (s t : String) :
    compare s t = compareOfLessAndEq (bytes s) (bytes t) := by
  show compareOfLessAndEq s t = _
  simp only [compareOfLessAndEq, lt_iff_bytes_lt, bytes_inj]

end RuleLang.Text
