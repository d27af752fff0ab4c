import Mathlib.Data.String.Basic
import Lexgen.Text.Utf8

namespace Lexgen.Text

theorem ofNat_lt_ofNat {a b : Nat} (hless : a < b) (hb : b < 256) :
    UInt8.ofNat a < UInt8.ofNat b := by
  rw [UInt8.lt_iff_toNat_lt, UInt8.toNat_ofNat_of_lt' (Nat.lt_trans hless hb),
    UInt8.toNat_ofNat_of_lt' hb]
  exact hless

/-- The last `n` bytes of a character's encoding, with six bits each. -/
def trailBytes : Nat → Nat → List UInt8
  | 0, _ => []
  | n + 1, v => UInt8.ofNat (v / 64 ^ n % 64 + 0x80) :: trailBytes n v

theorem mod_pow_succ_eq (v n : Nat) : v % 64 ^ (n + 1) = v / 64 ^ n % 64 * 64 ^ n + v % 64 ^ n := by
  rw [Nat.pow_succ, Nat.mod_mul, Nat.mul_comm (64 ^ n), Nat.add_comm]

theorem trailBytes_append_lt {n v w : Nat} (hless : v % 64 ^ n < w % 64 ^ n) (xs ys : List UInt8) :
    trailBytes n v ++ xs < trailBytes n w ++ ys := by
  induction n with
  | zero => simp [Nat.mod_one] at hless
  | succ n ih =>
      rw [trailBytes, trailBytes, List.cons_append, List.cons_append, List.cons_lt_cons_iff]
      rw [mod_pow_succ_eq, mod_pow_succ_eq] at hless
      rcases Nat.lt_trichotomy (v / 64 ^ n % 64) (w / 64 ^ n % 64) with hdigit | hdigit | hdigit
      · exact .inl (ofNat_lt_ofNat (by omega) (by omega))
      · rw [hdigit] at hless
        exact .inr ⟨by rw [hdigit], ih (by omega)⟩
      -- A larger digit outweighs everything after it, so this case contradicts `hless`.
      · have hrest : v % 64 ^ n < 64 ^ n := Nat.mod_lt _ (Nat.pow_pos (by decide))
        have hrest' : w % 64 ^ n < 64 ^ n := Nat.mod_lt _ (Nat.pow_pos (by decide))
        have hstep : (w / 64 ^ n % 64 + 1) * 64 ^ n ≤ v / 64 ^ n % 64 * 64 ^ n :=
          Nat.mul_le_mul_right _ hdigit
        rw [Nat.succ_mul] at hstep
        omega

/-- How many bytes follow the first one, and the bits that announce them in it. -/
def leadForm (v : Nat) : Nat × Nat :=
  if v ≤ 0x7F then (0, 0)
  else if v ≤ 0x7FF then (1, 0xC0)
  else if v ≤ 0xFFFF then (2, 0xE0)
  else (3, 0xF0)

/-- The first byte of a character's encoding. -/
def leadValue (v : Nat) : Nat := v / 64 ^ (leadForm v).1 + (leadForm v).2

theorem char_toNat_lt (c : Char) : c.toNat < 0x110000 := by
  have hvalid := c.valid
  rw [UInt32.isValidChar, Nat.isValidChar] at hvalid
  rw [Char.toNat]
  omega

theorem utf8EncodeChar_eq (c : Char) :
    String.utf8EncodeChar c =
      UInt8.ofNat (leadValue c.toNat) :: trailBytes (leadForm c.toNat).1 c.toNat := by
  have hbound : c.val.toNat < 0x110000 := char_toNat_lt c
  simp only [String.utf8EncodeChar, leadValue, leadForm, Char.toNat]
  split_ifs
  · simp [trailBytes]
  · rw [Nat.mod_eq_of_lt (show c.val.toNat / 64 < 32 by omega)]
    simp [trailBytes]
  · rw [Nat.mod_eq_of_lt (show c.val.toNat / 4096 < 16 by omega)]
    simp [trailBytes]
  · rw [Nat.mod_eq_of_lt (show c.val.toNat / 262144 < 8 by omega)]
    simp [trailBytes]

theorem leadValue_lt_or {v w : Nat} (hless : v < w) (hw : w < 0x110000) :
    leadValue v < leadValue w ∨
      leadValue v = leadValue w ∧ (leadForm v).1 = (leadForm w).1 ∧
        v % 64 ^ (leadForm v).1 < w % 64 ^ (leadForm v).1 := by
  simp only [leadValue, leadForm]
  split_ifs <;> simp only [Nat.reducePow, true_and, false_and] <;> omega

theorem leadValue_lt {v : Nat} (hv : v < 0x110000) : leadValue v < 256 := by
  simp only [leadValue, leadForm]
  split_ifs <;> simp only [Nat.reducePow] <;> omega

theorem utf8EncodeChar_append_lt {c d : Char} (hless : c < d) (xs ys : List UInt8) :
    String.utf8EncodeChar c ++ xs < String.utf8EncodeChar d ++ ys := by
  have hbound := char_toNat_lt d
  rw [utf8EncodeChar_eq, utf8EncodeChar_eq, List.cons_append, List.cons_append,
    List.cons_lt_cons_iff]
  rcases leadValue_lt_or (show c.toNat < d.toNat from hless) hbound with
    hlead | ⟨hlead, hform, htrail⟩
  · exact .inl (ofNat_lt_ofNat hlead (leadValue_lt hbound))
  · exact .inr ⟨by rw [hlead], hform ▸ trailBytes_append_lt htrail xs ys⟩

theorem flatMap_utf8EncodeChar_lt {cs ds : List Char} (hless : cs < ds) :
    cs.flatMap String.utf8EncodeChar < ds.flatMap String.utf8EncodeChar := by
  induction ds generalizing cs with
  | nil => exact absurd hless (List.not_lt_nil cs)
  | cons d ds ih =>
      cases cs with
      | nil =>
          rw [List.flatMap_nil, List.flatMap_cons, utf8EncodeChar_eq, List.cons_append]
          exact List.nil_lt_cons _ _
      | cons c cs =>
          rw [List.flatMap_cons, List.flatMap_cons]
          rcases List.cons_lt_cons_iff.mp hless with hfirst | ⟨rfl, hrest⟩
          · exact utf8EncodeChar_append_lt hfirst _ _
          · exact List.append_left_lt (ih hrest)

theorem encode_eq_flatMap (s : String) : encode s = s.toList.flatMap String.utf8EncodeChar := by
  have hbytes : s.toUTF8 = s.toList.utf8Encode := by
    rw [← String.toByteArray_ofList, String.ofList_toList]
    rfl
  rw [encode, hbytes, List.utf8Encode]
  exact List.data_toByteArray ▸ rfl

/-- The order of strings is the order of their bytes. -/
theorem encode_lt_encode_iff {s t : String} : encode s < encode t ↔ s < t := by
  have hmono {s t : String} (hless : s < t) : encode s < encode t := by
    rw [encode_eq_flatMap, encode_eq_flatMap]
    exact flatMap_utf8EncodeChar_lt (String.lt_iff_toList_lt.mp hless)
  refine ⟨?_, hmono⟩
  intro hless
  rcases lt_trichotomy s t with hst | rfl | hts
  · exact hst
  · exact absurd hless (List.lt_irrefl _)
  · exact absurd (hmono hts) (List.lt_asymm hless)

end Lexgen.Text
