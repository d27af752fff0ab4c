import Mathlib.Data.List.Induction
import Mathlib.Data.Set.Function
import Mathlib.Tactic.Ring
import Lexgen.Proofs.Text.ByteOrder
import Lexgen.Proofs.Text.PatternLanguage
import Lexgen.Tid.Basic

/-!
The texts of timestamp identifiers and the words they stand for. Thirteen digits in base 32 have 65
bits, one more than a word: a leading digit below sixteen is what keeps the number within the word,
so the accepted texts are the texts of the words, one for each.
-/

namespace Lexgen.Tid

open Lexgen.Text

/-- The value of a digit: its place in the alphabet. -/
def digitValue? (c : Char) : Option Nat := alphabet.findIdx? (· == c)

/-- The `length` lowest digits of a number in base 32, most significant first. -/
def digits : Nat → Nat → List Nat
  | 0, _ => []
  | length + 1, n => digits length (n / 32) ++ [n % 32]

@[simp] theorem digits_zero (n : Nat) : digits 0 n = [] := rfl

theorem digits_concat (length n : Nat) :
    digits (length + 1) n = digits length (n / 32) ++ [n % 32] :=
  rfl

/-- The byte of a digit. -/
def digitByte (value : Nat) : UInt8 := (digit value).val.toUInt8

theorem digitValue?_digit {value : Nat} (hvalue : value < 32) :
    digitValue? (digit value) = some value := by
  revert value
  decide

theorem entry_digitByte {value : Nat} (hvalue : value < 32) :
    (entry (digitByte value)).toNat = value := by
  have hall : ∀ value < 32, (entry (digitByte value)).toNat = value := by decide +kernel
  exact hall value hvalue

theorem leadingClass_eq : "234567abcdefghij".toList = alphabet.take 16 := by decide

theorem digitClass_eq : "234567abcdefghijklmnopqrstuvwxyz".toList = alphabet := by decide

theorem take_alphabet_contains_iff {n : Nat} (hn : n ≤ 32) {c : Char} :
    (alphabet.take n).contains c = true ↔ ∃ value < n, digit value = c := by
  have hdigits : alphabet = (List.range 32).map digit := by decide
  rw [hdigits, ← List.map_take, List.take_range, Nat.min_eq_left hn]
  simp

theorem alphabet_contains_iff {c : Char} :
    alphabet.contains c = true ↔ ∃ value < 32, digit value = c :=
  take_alphabet_contains_iff le_rfl

theorem utf8Size_digit {value : Nat} (hvalue : value < 32) : (digit value).utf8Size = 1 := by
  revert value
  decide

theorem encode_digits {ds : List Nat} (hds : ∀ d ∈ ds, d < 32) :
    encode (String.ofList (ds.map digit)) = ds.map digitByte := by
  rw [encode_eq_flatMap, String.toList_ofList]
  induction ds with
  | nil => rfl
  | cons d ds ih =>
      rw [List.forall_mem_cons] at hds
      have hbyte : String.utf8EncodeChar (digit d) = [digitByte d] :=
        String.utf8EncodeChar_eq_singleton (utf8Size_digit hds.1)
      simp only [List.map_cons, List.flatMap_cons, hbyte, ih hds.2, List.singleton_append]

theorem reverse_lowDigits (length : Nat) (word : UInt64) :
    (lowDigits length word).reverse = (digits length word.toNat).map digit := by
  induction length generalizing word with
  | zero => rfl
  | succ length ih =>
      have hmask : (word &&& 0x1F).toNat = word.toNat % 32 := by
        rw [UInt64.toNat_and]
        exact Nat.and_two_pow_sub_one_eq_mod word.toNat 5
      have hshift : (word >>> 5).toNat = word.toNat / 32 := by
        simp [UInt64.toNat_shiftRight, Nat.shiftRight_eq_div_pow]
      rw [lowDigits, List.reverse_cons, ih, digits_concat, List.map_append, hmask, hshift,
        List.map_singleton]

theorem text_eq (tid : Tid) :
    tid.text = String.ofList ((digits width tid.word.toNat).map digit) := by
  rw [text, reverse_lowDigits]

/-- The number that digits in base 32 spell, most significant first. -/
def ofDigits (ds : List Nat) : Nat := ds.foldl (fun n d => n * 32 + d) 0

@[simp] theorem ofDigits_nil : ofDigits [] = 0 := rfl

@[simp] theorem ofDigits_concat (ds : List Nat) (d : Nat) :
    ofDigits (ds ++ [d]) = ofDigits ds * 32 + d := by
  simp [ofDigits]

@[simp] theorem length_digits (length n : Nat) : (digits length n).length = length := by
  induction length generalizing n with
  | zero => rfl
  | succ length ih => simp [digits_concat, ih]

theorem lt_of_mem_digits {length n d : Nat} (hd : d ∈ digits length n) : d < 32 := by
  induction length generalizing n with
  | zero => simp at hd
  | succ length ih =>
      rcases List.mem_append.mp hd with hd | hd
      · exact ih hd
      · obtain rfl := List.mem_singleton.mp hd
        exact Nat.mod_lt n (by decide)

theorem ofDigits_digits (length n : Nat) : ofDigits (digits length n) = n % 32 ^ length := by
  induction length generalizing n with
  | zero => simp [Nat.mod_one]
  | succ length ih =>
      calc
        ofDigits (digits (length + 1) n) = n / 32 % 32 ^ length * 32 + n % 32 := by
          rw [digits_concat, ofDigits_concat, ih]
        _ = n % 32 ^ (length + 1) := by
          rw [Nat.pow_succ', Nat.mod_mul]
          omega

theorem digits_ofDigits {ds : List Nat} (hds : ∀ d ∈ ds, d < 32) :
    digits ds.length (ofDigits ds) = ds := by
  induction ds using List.reverseRecOn with
  | nil => rfl
  | append_singleton ds d ih =>
      obtain ⟨hinit, hlast⟩ := List.forall_mem_append.mp hds
      have hd : d < 32 := hlast d (List.mem_singleton_self d)
      have hquotient : (ofDigits ds * 32 + d) / 32 = ofDigits ds := by omega
      have hremainder : (ofDigits ds * 32 + d) % 32 = d := by omega
      rw [List.length_append, List.length_singleton, digits_concat, ofDigits_concat, hquotient,
        hremainder, ih hinit]

theorem ofDigits_lt {ds : List Nat} (hds : ∀ d ∈ ds, d < 32) : ofDigits ds < 32 ^ ds.length := by
  have hread := ofDigits_digits ds.length (ofDigits ds)
  rw [digits_ofDigits hds] at hread
  rw [hread]
  exact Nat.mod_lt _ (Nat.pow_pos (by decide))

theorem ofDigits_cons (d : Nat) (ds : List Nat) :
    ofDigits (d :: ds) = d * 32 ^ ds.length + ofDigits ds := by
  induction ds using List.reverseRecOn with
  | nil => simp [ofDigits]
  | append_singleton ds last ih =>
      rw [← List.cons_append, ofDigits_concat, ofDigits_concat, ih, List.length_append,
        List.length_singleton, Nat.pow_succ]
      ring

theorem ofDigits_le_append (ds more : List Nat) : ofDigits ds ≤ ofDigits (ds ++ more) := by
  induction more using List.reverseRecOn with
  | nil => simp
  | append_singleton more d ih =>
      rw [← List.append_assoc, ofDigits_concat]
      omega

/-- Digits that spell a word. -/
structure WordDigits (ds : List Nat) : Prop where
  length : ds.length = width
  digit_lt : ∀ d ∈ ds, d < 32
  fits : ofDigits ds < 2 ^ 64

theorem wordDigits_digits (word : UInt64) : WordDigits (digits width word.toNat) where
  length := length_digits _ _
  digit_lt _ hd := lt_of_mem_digits hd
  fits := by
    rw [ofDigits_digits]
    exact Nat.lt_of_le_of_lt (Nat.mod_le _ _) word.toNat_lt

theorem wordDigits_cons_iff {d : Nat} {ds : List Nat} (hds : ∀ e ∈ ds, e < 32)
    (hlength : ds.length = 12) : WordDigits (d :: ds) ↔ d < 16 := by
  have hvalue : ofDigits (d :: ds) = d * 32 ^ 12 + ofDigits ds := by rw [ofDigits_cons, hlength]
  have hlow : ofDigits ds < 32 ^ 12 := hlength ▸ ofDigits_lt hds
  constructor
  · intro hword
    have hfits := hword.fits
    omega
  · intro hd
    refine ⟨by simp [hlength, width], ?_, by omega⟩
    simpa using ⟨by omega, hds⟩

theorem exists_map_digit {cs : List Char} (hcs : ∀ c ∈ cs, alphabet.contains c = true) :
    ∃ ds : List Nat, (∀ d ∈ ds, d < 32) ∧ ds.map digit = cs := by
  induction cs with
  | nil => exact ⟨[], by simp⟩
  | cons c cs ih =>
      rw [List.forall_mem_cons] at hcs
      obtain ⟨d, hd, rfl⟩ := alphabet_contains_iff.mp hcs.1
      obtain ⟨ds, hds, rfl⟩ := ih hcs.2
      exact ⟨d :: ds, by simpa using ⟨hd, hds⟩, rfl⟩

theorem grammar_matchesAll_iff {cs : List Char} :
    grammar.matchesAll cs = true ↔ ∃ ds, WordDigits ds ∧ ds.map digit = cs := by
  rw [Pattern.matchesAll_iff, grammar, leadingClass_eq, digitClass_eq, Pattern.matches_one_seq_iff]
  simp only [Pattern.matches_times_one_iff, take_alphabet_contains_iff (show 16 ≤ 32 by decide)]
  constructor
  · rintro ⟨_, rest, rfl, ⟨d, hd, rfl⟩, hlength, hrest⟩
    obtain ⟨ds, hds, rfl⟩ := exists_map_digit hrest
    exact ⟨d :: ds, (wordDigits_cons_iff hds (by simpa using hlength)).mpr hd, rfl⟩
  · rintro ⟨ds, hword, rfl⟩
    obtain ⟨d, ds, rfl⟩ := List.exists_cons_of_length_eq_add_one hword.length
    have hlength : ds.length = 12 := by simpa [width] using hword.length
    obtain ⟨-, hds⟩ := List.forall_mem_cons.mp hword.digit_lt
    refine ⟨digit d, ds.map digit, rfl, ⟨d, (wordDigits_cons_iff hds hlength).mp hword, rfl⟩,
      by simpa using hlength, ?_⟩
    rintro _ hc
    obtain ⟨e, he, rfl⟩ := List.mem_map.mp hc
    exact alphabet_contains_iff.mpr ⟨e, hds e he, rfl⟩

theorem utf8ByteSize_digits {ds : List Nat} (hds : ∀ d ∈ ds, d < 32) :
    (String.ofList (ds.map digit)).utf8ByteSize = ds.length := by
  induction ds with
  | nil => rfl
  | cons d ds ih =>
      rw [List.forall_mem_cons] at hds
      rw [List.map_cons, String.ofList_cons, String.utf8ByteSize_append,
        String.utf8ByteSize_singleton, ih hds.2, utf8Size_digit hds.1, List.length_cons,
        Nat.add_comm]

theorem readWord_concat (bytes : Bytes) (b : UInt8) :
    readWord (bytes ++ [b]) = readWord bytes * 32 + (entry b).toUInt64 := by
  simp [readWord]

theorem toNat_readWord {ds : List Nat} (hds : ∀ d ∈ ds, d < 32) :
    (readWord (ds.map digitByte)).toNat = ofDigits ds % 2 ^ 64 := by
  induction ds using List.reverseRecOn with
  | nil => rfl
  | append_singleton ds d ih =>
      obtain ⟨hinit, hlast⟩ := List.forall_mem_append.mp hds
      rw [List.map_append, List.map_singleton, readWord_concat, UInt64.toNat_add, UInt64.toNat_mul,
        ih hinit, ofDigits_concat, UInt8.toNat_toUInt64,
        entry_digitByte (hlast d (List.mem_singleton_self d))]
      -- The word is reduced after each operation, the number once at the end.
      change (ofDigits ds % 2 ^ 64 * 32 % 2 ^ 64 + d) % 2 ^ 64 = _
      omega

theorem WordDigits.toNat_readWord {ds : List Nat} (hword : WordDigits ds) :
    (readWord (ds.map digitByte)).toNat = ofDigits ds := by
  rw [Tid.toNat_readWord hword.digit_lt, Nat.mod_eq_of_lt hword.fits]

theorem WordDigits.digits_readWord {ds : List Nat} (hword : WordDigits ds) :
    digits width (readWord (ds.map digitByte)).toNat = ds := by
  rw [hword.toNat_readWord, ← hword.length, digits_ofDigits hword.digit_lt]

theorem encode_text (tid : Tid) :
    encode tid.text = (digits width tid.word.toNat).map digitByte := by
  rw [text_eq, encode_digits (wordDigits_digits tid.word).digit_lt]

theorem readWord_text (tid : Tid) : readWord (encode tid.text) = tid.word := by
  apply UInt64.toNat_inj.mp
  rw [encode_text, (wordDigits_digits tid.word).toNat_readWord, ofDigits_digits]
  exact Nat.mod_eq_of_lt (Nat.lt_trans tid.word.toNat_lt (by decide))

/-- A text is read as a TID exactly when it is the text of that TID. -/
theorem parse_eq_ok_iff {s : String} {tid : Tid} : parse s = .ok tid ↔ s = tid.text := by
  constructor
  · intro hparse
    rw [parse] at hparse
    split at hparse
    · simp at hparse
    · split at hparse
      · rename_i haccepted
        obtain ⟨ds, hword, hdigits⟩ := grammar_matchesAll_iff.mp haccepted
        obtain rfl := Except.ok.inj hparse
        have hs : s = String.ofList (ds.map digit) := by rw [hdigits, String.ofList_toList]
        rw [text_eq, hs, encode_digits hword.digit_lt, hword.digits_readWord]
      · simp at hparse
  · rintro rfl
    have hword := wordDigits_digits tid.word
    have hsize : tid.text.utf8ByteSize = width := by
      rw [text_eq, utf8ByteSize_digits hword.digit_lt, hword.length]
    have haccepted : grammar.matchesAll tid.text.toList = true :=
      grammar_matchesAll_iff.mpr ⟨_, hword, by rw [text_eq, String.toList_ofList]⟩
    rw [parse, if_neg (by simp [hsize]), if_pos haccepted, readWord_text]

theorem readWord_step_lt {tid : Tid} {before after : Bytes} {b : UInt8}
    (hsplit : encode tid.text = before ++ b :: after) :
    (entry b).toNat < 32 ∧ (readWord before).toNat * 32 + (entry b).toNat < 2 ^ 64 := by
  have hword := wordDigits_digits tid.word
  rw [encode_text, List.map_eq_append_iff] at hsplit
  -- The digits split where the bytes do.
  obtain ⟨ds, rest, hsplit, rfl, hrest⟩ := hsplit
  obtain ⟨d, ds', rfl, rfl, -⟩ := List.map_eq_cons_iff.mp hrest
  rw [hsplit] at hword
  obtain ⟨hbefore, hafter⟩ := List.forall_mem_append.mp hword.digit_lt
  have hd : d < 32 := hafter d List.mem_cons_self
  rw [entry_digitByte hd]
  refine ⟨hd, ?_⟩
  -- The sum so far is the number that the digits so far spell, which the whole number bounds.
  have hprefix : ofDigits ds * 32 + d < 2 ^ 64 := by
    rw [← ofDigits_concat]
    refine Nat.lt_of_le_of_lt (ofDigits_le_append (ds ++ [d]) ds') ?_
    simpa using hword.fits
  rw [Tid.toNat_readWord hbefore]
  omega

/-- Words and accepted texts correspond one to one: writing and reading are inverse to each other,
and reading an accepted text meets digits only and never overflows the word. -/
theorem text_bijOn_accepted :
    Set.BijOn (fun word => text ⟨word⟩) Set.univ {s | ∃ tid, parse s = .ok tid} ∧
    (∀ word, parse (text ⟨word⟩) = .ok ⟨word⟩ ∧ readWord (encode (text ⟨word⟩)) = word) ∧
    ∀ s tid, parse s = .ok tid →
      tid.word = readWord (encode s) ∧
      text ⟨readWord (encode s)⟩ = s ∧
      ∀ before b after, encode s = before ++ b :: after →
        (entry b).toNat < 32 ∧ (readWord before).toNat * 32 + (entry b).toNat < 2 ^ 64 := by
  refine ⟨⟨?_, ?_, ?_⟩, ?_, ?_⟩
  · intro word _
    exact ⟨⟨word⟩, parse_eq_ok_iff.mpr rfl⟩
  · intro word _ word' _ heq
    have hword := readWord_text ⟨word⟩
    rw [show text ⟨word⟩ = text ⟨word'⟩ from heq, readWord_text] at hword
    exact hword.symm
  · rintro s ⟨tid, hparse⟩
    exact ⟨tid.word, Set.mem_univ _, (parse_eq_ok_iff.mp hparse).symm⟩
  · intro word
    exact ⟨parse_eq_ok_iff.mpr rfl, readWord_text ⟨word⟩⟩
  · intro s tid hparse
    obtain rfl := parse_eq_ok_iff.mp hparse
    refine ⟨(readWord_text tid).symm, by rw [readWord_text], ?_⟩
    intro before b after hsplit
    exact readWord_step_lt hsplit

/-- The largest word, whose last digit takes the sum to the end of the range. -/
theorem text_bijOn_accepted_largest :
    parse "jzzzzzzzzzzzz" = .ok ⟨0xFFFFFFFFFFFFFFFF⟩ ∧
    text ⟨readWord (encode "jzzzzzzzzzzzz")⟩ = "jzzzzzzzzzzzz" ∧
    (readWord (encode "jzzzzzzzzzzz")).toNat * 32 + (entry 122).toNat < 2 ^ 64 := by
  have hparse : parse "jzzzzzzzzzzzz" = .ok ⟨0xFFFFFFFFFFFFFFFF⟩ := by decide +kernel
  obtain ⟨-, htext, hsteps⟩ := text_bijOn_accepted.2.2 _ _ hparse
  exact ⟨hparse, htext, (hsteps (encode "jzzzzzzzzzzz") 122 [] (by decide +kernel)).2⟩

end Lexgen.Tid
