import Lexgen.Proofs.Tid.Order
import Lexgen.Proofs.Tid.Rejections

namespace Lexgen.Tid

open Lexgen.Text

theorem toNat_word_ofParts (time : UInt64) (clock : UInt32) :
    (ofParts time clock).word.toNat = time.toNat % 2 ^ 53 * 1024 + clock.toNat % 1024 := by
  have hclock : (clock.toUInt64 &&& 0x3FF).toNat = clock.toNat % 1024 := by
    rw [UInt64.toNat_and, UInt32.toNat_toUInt64]
    exact Nat.and_two_pow_sub_one_eq_mod clock.toNat 10
  -- the shift drops ten bits at the top, and the mask one more
  have hshift : (time <<< 10).toNat = (time.toNat % 2 ^ 54) <<< 10 := by
    rw [UInt64.toNat_shiftLeft, Nat.shiftLeft_eq, Nat.shiftLeft_eq]
    change time.toNat * 2 ^ 10 % 2 ^ 64 = _
    omega
  have hmask : (0x7FFFFFFFFFFFFC00 : UInt64).toNat = (2 ^ 53 - 1) <<< 10 := by decide
  have htime : (time <<< 10 &&& 0x7FFFFFFFFFFFFC00).toNat = (time.toNat % 2 ^ 53) <<< 10 := by
    rw [UInt64.toNat_and, hshift, hmask, ← Nat.shiftLeft_and_distrib,
      Nat.and_two_pow_sub_one_eq_mod]
    congr 1
    omega
  rw [ofParts, UInt64.toNat_or, htime, hclock,
    ← Nat.shiftLeft_add_eq_or_of_lt (Nat.mod_lt _ (by decide)), Nat.shiftLeft_eq]

theorem decode_text (tid : Tid) : decode tid.text = .ok tid.parts := by
  rw [decode, parse_eq_ok_iff.mpr rfl]
  rfl

/-- What is made of a time and a clock is read back as the low 53 bits of the one and the low ten
bits of the other; so times that fit sort as their texts do, whatever the clocks. -/
theorem decode_ofParts (time : UInt64) (clock : UInt32) :
    (∃ parts, decode (ofParts time clock).text = .ok parts ∧
      parts.timestamp.toNat = time.toNat % 2 ^ 53 ∧
      parts.clockId.toNat = clock.toNat % 2 ^ 10) ∧
    ∀ (later : UInt64) (clock' : UInt32), time < later → later.toNat < 2 ^ 53 →
      compare (encode (ofParts time clock).text) (encode (ofParts later clock').text) = .lt := by
  constructor
  · refine ⟨_, decode_text _, ?_, ?_⟩
    · rw [toNat_timestamp_parts, toNat_word_ofParts]
      omega
    · rw [toNat_clockId_parts, toNat_word_ofParts]
      omega
  · intro later clock' hless hfits
    rw [UInt64.lt_iff_toNat_lt] at hless
    rw [compare_encode_text, UInt64.compare_eq_toNat_compare_toNat, Nat.compare_eq_lt,
      toNat_word_ofParts, toNat_word_ofParts]
    omega

/-- Both halves cut down to their bits: of the time one bit is lost, of the clock seven. -/
theorem decode_ofParts_oversized :
    (∃ parts, decode (ofParts 0x20000000000005 0x13403).text = .ok parts ∧
      parts.timestamp.toNat = 5 ∧ parts.clockId.toNat = 3) ∧
    compare (encode (ofParts 5 0xFFFFFFFF).text) (encode (ofParts 6 0).text) = .lt := by
  refine ⟨?_, (decode_ofParts 5 0xFFFFFFFF).2 6 0 (by decide) (by decide)⟩
  obtain ⟨parts, hdecode, htime, hclock⟩ := (decode_ofParts 0x20000000000005 0x13403).1
  exact ⟨parts, hdecode, htime.trans (by decide), hclock.trans (by decide)⟩

/-- The parts of a TID put together. -/
def rebuilt (tid : Tid) : Tid := ofParts tid.parts.timestamp tid.parts.clockId.toUInt32

theorem toNat_word_rebuilt (tid : Tid) : tid.rebuilt.word.toNat = tid.word.toNat % 2 ^ 63 := by
  rw [rebuilt, toNat_word_ofParts, UInt16.toNat_toUInt32, toNat_timestamp_parts,
    toNat_clockId_parts]
  omega

theorem text_injective {a b : Tid} (htext : a.text = b.text) : a = b :=
  Except.ok.inj ((parse_eq_ok_iff.mpr rfl).symm.trans (parse_eq_ok_iff.mpr htext))

theorem rebuilt_text_eq_iff (tid : Tid) :
    tid.rebuilt.text = tid.text ↔ tid.word.toNat < 2 ^ 63 := by
  have hword := toNat_word_rebuilt tid
  constructor
  · intro htext
    rw [text_injective htext] at hword
    omega
  · intro hfits
    have heq : tid.rebuilt.word = tid.word := by
      apply UInt64.toNat_inj.mp
      omega
    rw [text, text, heq]

theorem digits_succ (length n : Nat) :
    digits (length + 1) n = n / 32 ^ length % 32 :: digits length n := by
  induction length generalizing n with
  | zero => simp [digits_concat]
  | succ length ih =>
      rw [digits_concat, ih, digits_concat, Nat.div_div_eq_div_mul, ← Nat.pow_succ',
        List.cons_append]

theorem leadingDigitBelow_text_iff {bound : Nat} (tid : Tid) :
    LeadingDigitBelow bound tid.text ↔ tid.word.toNat / 2 ^ 60 < bound := by
  have hword := tid.word.toNat_lt
  have htop : tid.word.toNat / 32 ^ 12 % 32 = tid.word.toNat / 2 ^ 60 := by omega
  have hhead : tid.text.toList.head? = some (digit (tid.word.toNat / 2 ^ 60)) := by
    rw [text_eq, String.toList_ofList, width, digits_succ, htop]
    rfl
  have hvalue : digitValue? (digit (tid.word.toNat / 2 ^ 60)) = some (tid.word.toNat / 2 ^ 60) :=
    digitValue?_digit (by omega)
  rw [LeadingDigitBelow, hhead]
  constructor
  · rintro ⟨c, hc, value, hmem, hbelow⟩
    obtain rfl := Option.some.inj hc
    obtain rfl := Option.some.inj (hvalue.symm.trans hmem)
    exact hbelow
  · intro hbelow
    exact ⟨_, rfl, _, hvalue, hbelow⟩

/-- Of the accepted texts, those that start with a digit below eight are the ones with a clear top
bit, the ones whose time has 53 bits, and the ones that their parts make again. The parts of any
other make the text with that bit cleared. -/
theorem layout_iff_leadingDigitBelow {s : String} {tid : Tid} (hs : parse s = .ok tid) :
    (tid.word.toNat < 2 ^ 63 ↔ LeadingDigitBelow 8 s) ∧
    (tid.parts.timestamp.toNat < 2 ^ 53 ↔ LeadingDigitBelow 8 s) ∧
    (tid.rebuilt.text = s ↔ LeadingDigitBelow 8 s) ∧
    tid.rebuilt.word.toNat = tid.word.toNat % 2 ^ 63 := by
  obtain rfl := parse_eq_ok_iff.mp hs
  rw [leadingDigitBelow_text_iff, rebuilt_text_eq_iff, toNat_timestamp_parts]
  refine ⟨?_, ?_, ?_, toNat_word_rebuilt tid⟩
  all_goals omega

/-- The largest time and clock of the layout. -/
theorem layout_iff_leadingDigitBelow_largest :
    parse "bzzzzzzzzzzzz" = .ok ⟨0x7FFFFFFFFFFFFFFF⟩ ∧
    LeadingDigitBelow 8 "bzzzzzzzzzzzz" ∧
    (rebuilt ⟨0x7FFFFFFFFFFFFFFF⟩).text = "bzzzzzzzzzzzz" := by
  have hs : parse "bzzzzzzzzzzzz" = .ok ⟨0x7FFFFFFFFFFFFFFF⟩ := by decide +kernel
  have hleading : LeadingDigitBelow 8 "bzzzzzzzzzzzz" := ⟨'b', rfl, 7, rfl, by decide⟩
  exact ⟨hs, hleading, (layout_iff_leadingDigitBelow hs).2.2.1.mpr hleading⟩

/-- The first accepted text beyond the layout: it has the top bit set and a time of 54 bits, and its
parts make the first text of all. -/
theorem accepted_beyond_layout :
    parse "c222222222222" = .ok ⟨0x8000000000000000⟩ ∧
    ¬ (⟨0x8000000000000000⟩ : Tid).word.toNat < 2 ^ 63 ∧
    ¬ (⟨0x8000000000000000⟩ : Tid).parts.timestamp.toNat < 2 ^ 53 ∧
    (rebuilt ⟨0x8000000000000000⟩).text = "2222222222222" := by
  decide +kernel

end Lexgen.Tid
