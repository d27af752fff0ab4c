import Lexgen.Proofs.Text.ByteOrder
import Lexgen.Proofs.Tid.Codec

namespace Lexgen.Tid

open Lexgen.Text

theorem compare_mul_add {size high low high' low' : Nat} (hlow : low < size) (hlow' : low' < size) :
    compare (high * size + low) (high' * size + low') =
      (compare high high').then (compare low low') := by
  have hstep {n m k : Nat} (hless : n < m) (hk : k < size) : n * size + k < m * size := by
    calc
      n * size + k < n * size + size := Nat.add_lt_add_left hk _
      _ = (n + 1) * size := (Nat.succ_mul n size).symm
      _ ≤ m * size := Nat.mul_le_mul_right size hless
  rcases Nat.lt_trichotomy high high' with hhigh | rfl | hhigh
  · have hless := hstep hhigh hlow
    rw [Nat.compare_eq_lt.mpr hhigh, Nat.compare_eq_lt.mpr (by omega)]
    rfl
  · rw [Nat.compare_eq_eq.mpr rfl, Ordering.then, Nat.compare_eq_ite_lt, Nat.compare_eq_ite_lt]
    simp
  · have hless := hstep hhigh hlow'
    rw [Nat.compare_eq_gt.mpr hhigh, Nat.compare_eq_gt.mpr (by omega)]
    rfl

theorem compare_digitByte {d e : Nat} (hd : d < 32) (he : e < 32) :
    compare (digitByte d) (digitByte e) = compare d e := by
  have hall : ∀ d < 32, ∀ e < 32, compare (digitByte d) (digitByte e) = compare d e := by
    decide +kernel
  exact hall d hd e he

theorem compare_map_digitByte {ds es : List Nat} (hds : ∀ d ∈ ds, d < 32)
    (hes : ∀ e ∈ es, e < 32) (hlength : ds.length = es.length) :
    compare (ds.map digitByte) (es.map digitByte) = compare (ofDigits ds) (ofDigits es) := by
  induction ds generalizing es with
  | nil =>
      obtain rfl : es = [] := List.eq_nil_of_length_eq_zero hlength.symm
      rfl
  | cons d ds ih =>
      obtain ⟨e, es, rfl⟩ := List.exists_cons_of_length_eq_add_one hlength.symm
      have hlength' : ds.length = es.length := by simpa using hlength
      rw [List.forall_mem_cons] at hds hes
      have hlow : ofDigits ds < 32 ^ es.length := hlength' ▸ ofDigits_lt hds.2
      calc
        compare ((d :: ds).map digitByte) ((e :: es).map digitByte)
            = (compare d e).then (compare (ofDigits ds) (ofDigits es)) := by
          rw [List.map_cons, List.map_cons, List.compare_cons_cons,
            compare_digitByte hds.1 hes.1, ih hds.2 hes.2 hlength']
        _ = compare (ofDigits (d :: ds)) (ofDigits (e :: es)) := by
          rw [ofDigits_cons, ofDigits_cons, hlength', compare_mul_add hlow (ofDigits_lt hes.2)]

theorem compare_encode_text (a b : Tid) :
    compare (encode a.text) (encode b.text) = compare a.word b.word := by
  have ha := wordDigits_digits a.word
  have hb := wordDigits_digits b.word
  have hvalue (word : UInt64) : ofDigits (digits width word.toNat) = word.toNat := by
    rw [ofDigits_digits]
    exact Nat.mod_eq_of_lt (Nat.lt_trans word.toNat_lt (by decide))
  rw [encode_text, encode_text,
    compare_map_digitByte ha.digit_lt hb.digit_lt (ha.length.trans hb.length.symm), hvalue, hvalue,
    UInt64.compare_eq_toNat_compare_toNat]

theorem toNat_timestamp_parts (tid : Tid) :
    tid.parts.timestamp.toNat = tid.word.toNat / 1024 := by
  simp [parts, timestamp, UInt64.toNat_shiftRight, Nat.shiftRight_eq_div_pow]

theorem toNat_clockId_parts (tid : Tid) : tid.parts.clockId.toNat = tid.word.toNat % 1024 := by
  have hmask : tid.clockId.toNat = tid.word.toNat % 1024 := by
    rw [clockId, UInt64.toNat_and]
    exact Nat.and_two_pow_sub_one_eq_mod tid.word.toNat 10
  rw [parts, UInt64.toNat_toUInt16, hmask]
  omega

theorem compare_word (a b : Tid) :
    compare a.word b.word =
      compareLex (compareOn Parts.timestamp) (compareOn Parts.clockId) a.parts b.parts := by
  have hparts (tid : Tid) :
      tid.word.toNat = tid.parts.timestamp.toNat * 1024 + tid.parts.clockId.toNat := by
    rw [toNat_timestamp_parts, toNat_clockId_parts]
    omega
  have hclock (tid : Tid) : tid.parts.clockId.toNat < 1024 := by
    rw [toNat_clockId_parts]
    omega
  rw [compareLex, compareOn, compareOn, UInt64.compare_eq_toNat_compare_toNat, hparts a, hparts b,
    compare_mul_add (hclock a) (hclock b), UInt64.compare_eq_toNat_compare_toNat,
    UInt16.compare_eq_toNat_compare_toNat]

/-- Accepted texts are sortable: they compare by their bytes as the words they spell do as numbers,
and as the pairs of time and clock do. -/
theorem compare_accepted {s t : String} {a b : Tid} (hs : parse s = .ok a) (ht : parse t = .ok b) :
    compare (encode s) (encode t) = compare a.word b.word ∧
      compare (encode s) (encode t) =
        compareLex (compareOn Parts.timestamp) (compareOn Parts.clockId) a.parts b.parts := by
  obtain rfl := parse_eq_ok_iff.mp hs
  obtain rfl := parse_eq_ok_iff.mp ht
  refine ⟨compare_encode_text a b, ?_⟩
  rw [compare_encode_text, compare_word]

/-- Two texts of one time whose clocks differ across the gap between digits and letters. -/
theorem compare_accepted_gap :
    parse "2222222222b27" = .ok ⟨7173⟩ ∧ parse "2222222222b2a" = .ok ⟨7174⟩ ∧
      compare (encode "2222222222b27") (encode "2222222222b2a") = .lt ∧
      compareLex (compareOn Parts.timestamp) (compareOn Parts.clockId)
        (parts ⟨7173⟩) (parts ⟨7174⟩) = .lt := by
  have hs : parse "2222222222b27" = .ok ⟨7173⟩ := by decide +kernel
  have ht : parse "2222222222b2a" = .ok ⟨7174⟩ := by decide +kernel
  have hless : compare (7173 : UInt64) 7174 = .lt := by decide +kernel
  obtain ⟨hword, hparts⟩ := compare_accepted hs ht
  exact ⟨hs, ht, hword.trans hless, hparts.symm.trans (hword.trans hless)⟩

end Lexgen.Tid
