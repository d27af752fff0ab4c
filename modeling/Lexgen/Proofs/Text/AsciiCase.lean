import Lexgen.Text.Case

namespace Lexgen.Text

variable {c : Char}

theorem isLower_iff_val : c.isLower = true ↔ c.val ≥ 'a'.val ∧ c.val ≤ 'z'.val :=
  Bool.and_eq_true_iff.trans (and_congr decide_eq_true_iff decide_eq_true_iff)

theorem isUpper_iff_val : c.isUpper = true ↔ c.val ≥ 'A'.val ∧ c.val ≤ 'Z'.val :=
  decide_eq_true_iff

theorem isDigit_iff_val : c.isDigit = true ↔ c.val ≥ '0'.val ∧ c.val ≤ '9'.val :=
  Bool.and_eq_true_iff.trans (and_congr decide_eq_true_iff decide_eq_true_iff)

theorem isAlpha_eq (c : Char) : c.isAlpha = (c.isUpper || c.isLower) := rfl

theorem isAlpha_iff : c.isAlpha = true ↔ c.isUpper = true ∨ c.isLower = true :=
  Bool.or_eq_true_iff

theorem isAlphanum_iff : c.isAlphanum = true ↔ c.isAlpha = true ∨ c.isDigit = true :=
  Bool.or_eq_true_iff

theorem isLower_iff : c.isLower = true ↔ 97 ≤ c.toNat ∧ c.toNat ≤ 122 := by
  rw [isLower_iff_val, ge_iff_le, UInt32.le_iff_toNat_le, UInt32.le_iff_toNat_le]
  exact Iff.rfl

theorem isUpper_iff : c.isUpper = true ↔ 65 ≤ c.toNat ∧ c.toNat ≤ 90 := by
  rw [isUpper_iff_val, ge_iff_le, UInt32.le_iff_toNat_le, UInt32.le_iff_toNat_le]
  exact Iff.rfl

theorem isDigit_iff : c.isDigit = true ↔ 48 ≤ c.toNat ∧ c.toNat ≤ 57 := by
  rw [isDigit_iff_val, ge_iff_le, UInt32.le_iff_toNat_le, UInt32.le_iff_toNat_le]
  exact Iff.rfl

theorem isAlphanum_of_isLower (hc : c.isLower = true) : c.isAlphanum = true :=
  isAlphanum_iff.mpr (.inl (isAlpha_iff.mpr (.inr hc)))

theorem isAlphanum_of_isUpper (hc : c.isUpper = true) : c.isAlphanum = true :=
  isAlphanum_iff.mpr (.inl (isAlpha_iff.mpr (.inl hc)))

theorem not_isUpper_of_isLower (hc : c.isLower = true) : ¬ c.isUpper = true := by
  rw [isLower_iff] at hc
  rw [isUpper_iff]
  omega

section Numbers

theorem toUpper_of_not_isLower (hc : ¬ c.isLower = true) : c.toUpper = c := by
  rw [isLower_iff_val] at hc
  exact dif_neg hc

theorem toLower_of_not_isUpper (hc : ¬ c.isUpper = true) : c.toLower = c := by
  rw [isUpper_iff_val] at hc
  exact dif_neg hc

theorem toNat_toUpper (hc : c.isLower = true) : c.toUpper.toNat + 32 = c.toNat := by
  obtain ⟨hvalid, hupper⟩ : ∃ hvalid, c.toUpper = ⟨c.val + ('A'.val - 'a'.val), hvalid⟩ :=
    ⟨_, dif_pos (isLower_iff_val.mp hc)⟩
  have hsum : c.toUpper.toNat = (c.toNat + (2 ^ 32 - 32)) % 2 ^ 32 := by
    rw [hupper]
    exact UInt32.toNat_add c.val ('A'.val - 'a'.val)
  rw [isLower_iff] at hc
  omega

theorem toNat_toLower (hc : c.isUpper = true) : c.toLower.toNat = c.toNat + 32 := by
  obtain ⟨hvalid, hlower⟩ : ∃ hvalid, c.toLower = ⟨c.val + ('a'.val - 'A'.val), hvalid⟩ :=
    ⟨_, dif_pos (isUpper_iff_val.mp hc)⟩
  have hsum : c.toLower.toNat = (c.toNat + 32) % 2 ^ 32 := by
    rw [hlower]
    exact UInt32.toNat_add c.val ('a'.val - 'A'.val)
  rw [isUpper_iff] at hc
  omega

end Numbers

theorem isUpper_toUpper_of_isLower (hc : c.isLower = true) : c.toUpper.isUpper = true := by
  have hupper := toNat_toUpper hc
  rw [isLower_iff] at hc
  rw [isUpper_iff]
  omega

theorem isLower_toLower_of_isUpper (hc : c.isUpper = true) : c.toLower.isLower = true := by
  have hlower := toNat_toLower hc
  rw [isUpper_iff] at hc
  rw [isLower_iff]
  omega

theorem not_isLower_toUpper (c : Char) : ¬ c.toUpper.isLower = true := by
  by_cases hc : c.isLower = true
  · exact fun hlower => not_isUpper_of_isLower hlower (isUpper_toUpper_of_isLower hc)
  · rwa [toUpper_of_not_isLower hc]

theorem isUpper_toUpper (c : Char) : c.toUpper.isUpper = c.isAlpha := by
  rw [Bool.eq_iff_iff, isAlpha_iff]
  by_cases hc : c.isLower = true
  · simp [hc, isUpper_toUpper_of_isLower hc]
  · simp [hc, toUpper_of_not_isLower hc]

theorem isLower_toLower (c : Char) : c.toLower.isLower = c.isAlpha := by
  rw [Bool.eq_iff_iff, isAlpha_iff]
  by_cases hc : c.isUpper = true
  · simp [hc, isLower_toLower_of_isUpper hc]
  · simp [hc, toLower_of_not_isUpper hc]

theorem toUpper_toLower (c : Char) : c.toLower.toUpper = c.toUpper := by
  by_cases hc : c.isUpper = true
  · have hlower := toNat_toLower hc
    have hupper := toNat_toUpper (isLower_toLower_of_isUpper hc)
    rw [toUpper_of_not_isLower fun hlower => not_isUpper_of_isLower hlower hc]
    exact Char.toNat_inj.mp (by omega)
  · rw [toLower_of_not_isUpper hc]

end Lexgen.Text
