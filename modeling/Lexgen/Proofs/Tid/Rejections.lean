import Lexgen.Proofs.Tid.Codec

/-!
Why texts are refused as timestamp identifiers. A pattern decides whether a text is accepted, and a
search through a table of bytes then says what is wrong with it; neither knows of the other. The
search blames a character exactly when one is no digit, and where it finds none, a text of the right
length can only have failed at its leading digit.
-/

namespace Lexgen.Tid

open Lexgen.Text

theorem digitTable_get_ne_noDigit {n : Nat} (hn : n < 256) :
    (digitTable.get ⟨n, hn⟩ != noDigit) = (alphabet.map Char.toNat).contains n := by
  have htable : digitTable.toList.map (· != noDigit) =
      (List.range 256).map (alphabet.map Char.toNat).contains := by
    decide +kernel
  have hentry := congrArg (·[n]?) htable
  simpa [hn, Vector.get] using hentry

theorem mem_map_toNat_alphabet_iff {c : Char} :
    c.toNat ∈ alphabet.map Char.toNat ↔ c ∈ alphabet := by
  rw [List.mem_map]
  constructor
  · rintro ⟨d, hd, heq⟩
    rwa [← Char.toNat_inj.mp heq]
  · intro hc
    exact ⟨c, hc, rfl⟩

theorem isDigit_iff {c : Char} : isDigit c = true ↔ c ∈ alphabet := by
  rw [isDigit, ← mem_map_toNat_alphabet_iff]
  split
  · rw [digitTable_get_ne_noDigit, List.contains_iff_mem]
  · rename_i hascii
    have hall : (alphabet.map Char.toNat).all (· < 128) = true := by decide
    refine iff_of_false Bool.false_ne_true fun hmem => hascii ?_
    simpa using List.all_eq_true.mp hall c.toNat hmem

/-- The first character of a text that is no digit, and the number of bytes before it. -/
def IsFirstForeign (cs : List Char) (c : Char) (offset : Nat) : Prop :=
  ∃ before after, cs = before ++ c :: after ∧ (∀ d ∈ before, d ∈ alphabet) ∧ c ∉ alphabet ∧
    offset = (String.ofList before).utf8ByteSize

/-- The text starts with a digit whose value is below a bound. -/
def LeadingDigitBelow (bound : Nat) (s : String) : Prop :=
  ∃ c ∈ s.toList.head?, ∃ value ∈ digitValue? c, value < bound

section Search

variable {start offset : Nat} {c : Char} {cs : List Char}

theorem firstForeign?_eq_none_iff : firstForeign? start cs = none ↔ ∀ d ∈ cs, d ∈ alphabet := by
  induction cs generalizing start with
  | nil => simp [firstForeign?]
  | cons d cs ih =>
      rw [firstForeign?, List.forall_mem_cons, ← isDigit_iff]
      split
      · rename_i hdigit
        rw [ih, and_iff_right hdigit]
      · rename_i hdigit
        simp [hdigit]

theorem firstForeign?_eq_some_iff_from : firstForeign? start cs = some (c, offset) ↔
    ∃ before after, cs = before ++ c :: after ∧ (∀ d ∈ before, d ∈ alphabet) ∧ c ∉ alphabet ∧
      offset = start + (String.ofList before).utf8ByteSize := by
  induction cs generalizing start with
  | nil => simp [firstForeign?]
  | cons d cs ih =>
      rw [firstForeign?]
      split
      · rename_i hdigit
        have hd : d ∈ alphabet := isDigit_iff.mp hdigit
        rw [ih]
        constructor
        · rintro ⟨before, after, rfl, hbefore, hc, rfl⟩
          refine ⟨d :: before, after, rfl, List.forall_mem_cons.mpr ⟨hd, hbefore⟩, hc, ?_⟩
          rw [String.ofList_cons, String.utf8ByteSize_append, String.utf8ByteSize_singleton,
            Nat.add_assoc]
        · rintro ⟨before, after, hsplit, hbefore, hc, rfl⟩
          cases before with
          | nil =>
              obtain ⟨rfl, rfl⟩ := List.cons.inj hsplit
              exact absurd hd hc
          | cons e before =>
              obtain ⟨rfl, rfl⟩ := List.cons.inj hsplit
              refine ⟨before, after, rfl, (List.forall_mem_cons.mp hbefore).2, hc, ?_⟩
              rw [String.ofList_cons, String.utf8ByteSize_append, String.utf8ByteSize_singleton,
                Nat.add_assoc]
      · rename_i hdigit
        have hd : d ∉ alphabet := fun hmem => hdigit (isDigit_iff.mpr hmem)
        constructor
        · intro hfound
          obtain ⟨rfl, rfl⟩ := Prod.mk.inj (Option.some.inj hfound)
          exact ⟨[], cs, rfl, by simp, hd, rfl⟩
        · rintro ⟨before, after, hsplit, hbefore, hc, rfl⟩
          cases before with
          | nil =>
              obtain ⟨rfl, rfl⟩ := List.cons.inj hsplit
              rfl
          | cons e before =>
              obtain ⟨rfl, rfl⟩ := List.cons.inj hsplit
              exact absurd (List.forall_mem_cons.mp hbefore).1 hd

theorem firstForeign?_eq_some_iff :
    firstForeign? 0 cs = some (c, offset) ↔ IsFirstForeign cs c offset := by
  simp only [firstForeign?_eq_some_iff_from, IsFirstForeign, Nat.zero_add]

end Search

section CheckedSearch

/-- What the table says of a character; `none` if its place were outside the table. -/
def isDigit? (c : Char) : Option Bool :=
  if c.toNat < 128 then digitTable[c.toNat]?.map (· != noDigit) else some false

/-- The search for the first foreign character, stopped with `none` by a place outside the table. -/
def searchForeign? (offset : Nat) : List Char → Option (Option (Char × Nat))
  | [] => some none
  | c :: rest => do
    if ← isDigit? c then searchForeign? (offset + c.utf8Size) rest else some (some (c, offset))

theorem isDigit?_eq (c : Char) : isDigit? c = some (isDigit c) := by
  rw [isDigit?, isDigit]
  split
  · rename_i hascii
    rw [Vector.getElem?_eq_getElem (Nat.lt_trans hascii (by decide))]
    rfl
  · rfl

theorem searchForeign?_eq (offset : Nat) (cs : List Char) :
    searchForeign? offset cs = some (firstForeign? offset cs) := by
  induction cs generalizing offset with
  | nil => rfl
  | cons c cs ih =>
      rw [searchForeign?, firstForeign?, isDigit?_eq, Option.bind_eq_bind, Option.bind_some]
      split
      · exact ih _
      · rfl

end CheckedSearch

section Acceptance

variable {d : Nat} {ds es : List Nat} {s : String}

theorem map_digit_injective (hds : ∀ d ∈ ds, d < 32) (hes : ∀ e ∈ es, e < 32)
    (heq : ds.map digit = es.map digit) : ds = es := by
  have hread {ds : List Nat} (hds : ∀ d ∈ ds, d < 32) :
      (ds.map digit).map digitValue? = ds.map some := by
    rw [List.map_map]
    exact List.map_congr_left fun d hd => digitValue?_digit (hds d hd)
  have hvalues : ds.map some = es.map some := by rw [← hread hds, heq, hread hes]
  exact (List.map_inj_right fun _ _ => Option.some.inj).mp hvalues

theorem grammar_matchesAll_digits_iff (hdigits : ∀ e ∈ d :: ds, e < 32) (hlength : ds.length = 12) :
    grammar.matchesAll ((d :: ds).map digit) = true ↔ d < 16 := by
  rw [grammar_matchesAll_iff, ← wordDigits_cons_iff (List.forall_mem_cons.mp hdigits).2 hlength]
  constructor
  · rintro ⟨es, hword, hmap⟩
    rwa [← map_digit_injective hword.digit_lt hdigits hmap]
  · intro hword
    exact ⟨d :: ds, hword, rfl⟩

theorem mem_alphabet_of_accepted {cs : List Char} (haccepted : grammar.matchesAll cs = true) :
    ∀ c ∈ cs, c ∈ alphabet := by
  obtain ⟨ds, hword, rfl⟩ := grammar_matchesAll_iff.mp haccepted
  intro c hc
  obtain ⟨d, hd, rfl⟩ := List.mem_map.mp hc
  exact List.contains_iff_mem.mp (alphabet_contains_iff.mpr ⟨d, hword.digit_lt d hd, rfl⟩)

theorem exists_leading_digit (hsize : s.utf8ByteSize = width)
    (hdigits : ∀ c ∈ s.toList, c ∈ alphabet) :
    ∃ c value, s.toList.head? = some c ∧ digitValue? c = some value ∧
      (grammar.matchesAll s.toList = true ↔ value < 16) := by
  obtain ⟨ds, hds, hmap⟩ := exists_map_digit fun c hc => List.contains_iff_mem.mpr (hdigits c hc)
  have hlength : ds.length = width := by
    rw [← utf8ByteSize_digits hds, hmap, String.ofList_toList, hsize]
  obtain ⟨d, ds, rfl⟩ := List.exists_cons_of_length_eq_add_one hlength
  rw [← hmap]
  refine ⟨digit d, d, rfl, digitValue?_digit (hds d List.mem_cons_self), ?_⟩
  exact grammar_matchesAll_digits_iff hds (by simpa [width] using hlength)

theorem grammar_matchesAll_iff_leading {c : Char} {value : Nat} (hsize : s.utf8ByteSize = width)
    (hdigits : ∀ c ∈ s.toList, c ∈ alphabet) (hhead : s.toList.head? = some c)
    (hvalue : digitValue? c = some value) :
    grammar.matchesAll s.toList = true ↔ value < 16 := by
  obtain ⟨c', value', hhead', hvalue', hiff⟩ := exists_leading_digit hsize hdigits
  obtain rfl := Option.some.inj (hhead.symm.trans hhead')
  obtain rfl := Option.some.inj (hvalue.symm.trans hvalue')
  exact hiff

end Acceptance

/-- What texts are read as, by what is in them. -/
inductive Reads (s : String) : Except Error Tid → Prop where
  | length : s.utf8ByteSize ≠ width → Reads s (.error (.length s.utf8ByteSize))
  | invalidChar {c : Char} {offset : Nat} : s.utf8ByteSize = width →
      IsFirstForeign s.toList c offset → Reads s (.error (.invalidChar c offset))
  | leadingChar {c : Char} {value : Nat} : s.utf8ByteSize = width →
      (∀ d ∈ s.toList, d ∈ alphabet) → s.toList.head? = some c → digitValue? c = some value →
      16 ≤ value → Reads s (.error (.leadingChar c))
  | accepted {c : Char} {value : Nat} : s.utf8ByteSize = width →
      (∀ d ∈ s.toList, d ∈ alphabet) → s.toList.head? = some c → digitValue? c = some value →
      value < 16 → Reads s (.ok ⟨readWord (encode s)⟩)

theorem reads_parse (s : String) : Reads s (parse s) := by
  rw [parse]
  split
  · rename_i hsize
    exact .length hsize
  · rename_i hsize
    rw [not_not] at hsize
    split
    · rename_i haccepted
      have hdigits := mem_alphabet_of_accepted haccepted
      obtain ⟨c, value, hhead, hvalue, hiff⟩ := exists_leading_digit hsize hdigits
      exact .accepted hsize hdigits hhead hvalue (hiff.mp haccepted)
    · rename_i hrefused
      rw [blame]
      cases hfound : firstForeign? 0 s.toList with
      | some found => exact .invalidChar hsize (firstForeign?_eq_some_iff.mp hfound)
      | none =>
          have hdigits := firstForeign?_eq_none_iff.mp hfound
          obtain ⟨c, value, hhead, hvalue, hiff⟩ := exists_leading_digit hsize hdigits
          rw [hiff, Nat.not_lt] at hrefused
          rw [List.headD_eq_head?_getD, hhead]
          exact .leadingChar hsize hdigits hhead hvalue hrefused

theorem IsFirstForeign.not_all_digits {cs : List Char} {c : Char} {offset : Nat}
    (h : IsFirstForeign cs c offset) : ¬ ∀ d ∈ cs, d ∈ alphabet := by
  obtain ⟨before, after, rfl, -, hc, -⟩ := h
  exact fun hdigits => hc (hdigits c (by simp))

theorem parse_of_reads {s : String} {r : Except Error Tid} (hreads : Reads s r) : parse s = r := by
  cases hreads with
  | length hsize => exact if_pos hsize
  | invalidChar hsize hforeign =>
      have hrefused : ¬ grammar.matchesAll s.toList = true :=
        fun haccepted => hforeign.not_all_digits (mem_alphabet_of_accepted haccepted)
      rw [parse, if_neg (not_not_intro hsize), if_neg hrefused, blame,
        firstForeign?_eq_some_iff.mpr hforeign]
  | leadingChar hsize hdigits hhead hvalue hlarge =>
      have hrefused : ¬ grammar.matchesAll s.toList = true := by
        rw [grammar_matchesAll_iff_leading hsize hdigits hhead hvalue]
        exact Nat.not_lt.mpr hlarge
      rw [parse, if_neg (not_not_intro hsize), if_neg hrefused, blame,
        firstForeign?_eq_none_iff.mpr hdigits, List.headD_eq_head?_getD, hhead]
      rfl
  | accepted hsize hdigits hhead hvalue hsmall =>
      have haccepted := (grammar_matchesAll_iff_leading hsize hdigits hhead hvalue).mpr hsmall
      rw [parse, if_neg (not_not_intro hsize), if_pos haccepted]

theorem parse_eq_iff {s : String} {r : Except Error Tid} : parse s = r ↔ Reads s r := by
  constructor
  · rintro rfl
    exact reads_parse s
  · exact parse_of_reads

/-- Texts are refused for what is wrong with them, the length in bytes before any character and any
character before the leading digit; and the search for the character never leaves its table. -/
theorem parse_exact (s : String) :
    (∀ n, parse s = .error (.length n) ↔ s.utf8ByteSize = n ∧ n ≠ 13) ∧
    (∀ c offset, parse s = .error (.invalidChar c offset) ↔
      s.utf8ByteSize = 13 ∧ IsFirstForeign s.toList c offset) ∧
    (∀ c, parse s = .error (.leadingChar c) ↔
      s.utf8ByteSize = 13 ∧ (∀ d ∈ s.toList, d ∈ alphabet) ∧ s.toList.head? = some c ∧
        ∃ value ∈ digitValue? c, 16 ≤ value) ∧
    ((∃ tid, parse s = .ok tid) ↔
      s.utf8ByteSize = 13 ∧ (∀ d ∈ s.toList, d ∈ alphabet) ∧ LeadingDigitBelow 16 s) ∧
    searchForeign? 0 s.toList = some (firstForeign? 0 s.toList) := by
  simp only [parse_eq_iff]
  refine ⟨fun n => ⟨?_, ?_⟩, fun c offset => ⟨?_, ?_⟩, fun c => ⟨?_, ?_⟩, ⟨?_, ?_⟩,
    searchForeign?_eq 0 s.toList⟩
  · intro hreads
    cases hreads with
    | length hsize => exact ⟨rfl, hsize⟩
  · rintro ⟨rfl, hsize⟩
    exact .length hsize
  · intro hreads
    cases hreads with
    | invalidChar hsize hforeign => exact ⟨hsize, hforeign⟩
  · rintro ⟨hsize, hforeign⟩
    exact .invalidChar hsize hforeign
  · intro hreads
    cases hreads with
    | leadingChar hsize hdigits hhead hvalue hlarge =>
        exact ⟨hsize, hdigits, hhead, _, hvalue, hlarge⟩
  · rintro ⟨hsize, hdigits, hhead, value, hvalue, hlarge⟩
    exact .leadingChar hsize hdigits hhead hvalue hlarge
  · rintro ⟨tid, hreads⟩
    cases hreads with
    | accepted hsize hdigits hhead hvalue hsmall =>
        exact ⟨hsize, hdigits, _, hhead, _, hvalue, hsmall⟩
  · rintro ⟨hsize, hdigits, c, hhead, value, hvalue, hsmall⟩
    exact ⟨_, .accepted hsize hdigits hhead hvalue hsmall⟩

/-- A character of two bytes leaves room for eleven digits. -/
example : parse "22222222222é" = .error (.invalidChar 'é' 11) := by decide +kernel

end Lexgen.Tid
