import Lexgen.Error
import Mathlib.Data.List.Induction

namespace Lexgen

open Lexgen.Text

/-- The line that goes on at `i` starts at `start`: behind the last line feed before `i`, or where
the text starts if there is none. -/
structure IsLineStart (src : Bytes) (i start : Nat) : Prop where
  le : start ≤ i
  behind : start = 0 ∨ src[start - 1]? = some 10
  last : 10 ∉ (src.take i).drop start

section Lines

variable {src lines line rest : Bytes} {i start start' : Nat}

theorem IsLineStart.not_lt (hstart : IsLineStart src i start) (hstart' : IsLineStart src i start') :
    ¬ start < start' := by
  intro hlt
  have hle := hstart'.le
  have hfeed : src[start' - 1]? = some 10 := hstart'.behind.resolve_left (by omega)
  apply hstart.last
  have hindex : ((src.take i).drop start)[start' - 1 - start]? = some 10 := by
    rw [List.getElem?_drop, List.getElem?_take_of_lt (by omega), ← hfeed]
    congr 1
    omega
  exact List.mem_of_getElem? hindex

theorem IsLineStart.unique (hstart : IsLineStart src i start) (hstart' : IsLineStart src i start') :
    start = start' :=
  Nat.le_antisymm (Nat.not_lt.mp (hstart'.not_lt hstart)) (Nat.not_lt.mp (hstart.not_lt hstart'))

/-- Whole lines: nothing, or bytes that end in a line feed. -/
def AreLines (bytes : Bytes) : Prop := ∀ b ∈ bytes.getLast?, b = 10

theorem lineStart_count (hlines : AreLines lines) :
    lineStart (lines.count 10) (lines ++ rest) = lines.length := by
  induction lines with
  | nil => simp [lineStart]
  | cons b lines ih =>
      rw [List.cons_append, List.length_cons, Nat.add_comm lines.length]
      have hrest : AreLines lines := by
        intro last hlast
        exact hlines last (by rw [List.getLast?_cons, hlast]; rfl)
      by_cases hb : b = 10
      · rw [hb, List.count_cons_self, lineStart, if_pos rfl, ih hrest]
      · -- the line goes on, so there is a line feed further on
        have hfeed : 0 < lines.count 10 := by
          cases hlast : lines.getLast? with
          | none =>
              rw [List.getLast?_eq_none_iff] at hlast
              exact absurd (hlines b (by rw [hlast]; rfl)) hb
          | some last =>
              rw [hrest last hlast] at hlast
              exact List.count_pos_iff.mpr (List.mem_of_getLast? hlast)
        obtain ⟨count, hcount⟩ := Nat.exists_eq_add_of_lt hfeed
        rw [Nat.zero_add] at hcount
        have hgoesOn : (b :: lines).count 10 = count + 1 := by
          rw [List.count_cons_of_ne hb, hcount]
        rw [hgoesOn, lineStart, if_neg hb, ← hcount, ih hrest]

theorem exists_lines (before : Bytes) : ∃ lines line, before = lines ++ line ∧ AreLines lines ∧
    10 ∉ line ∧ (before.reverse.takeWhile (· ≠ 10)).length = line.length := by
  induction before using List.reverseRecOn with
  | nil => exact ⟨[], [], rfl, by simp [AreLines], by simp, rfl⟩
  | append_singleton before b ih =>
      rw [List.reverse_concat]
      by_cases hb : b = 10
      · refine ⟨before ++ [b], [], by simp, by simp [AreLines, hb], by simp, ?_⟩
        rw [List.takeWhile_cons_of_neg (by simpa using hb)]
      · obtain ⟨lines, line, rfl, hlines, hline, hlength⟩ := ih
        refine ⟨lines, line ++ [b], by simp, hlines, by simp [hline, Ne.symm hb], ?_⟩
        rw [List.takeWhile_cons_of_pos (by simpa using hb), List.length_cons, hlength,
          List.length_append, List.length_singleton]

theorem exists_lines_before (hi : i ≤ src.length) : ∃ lines line, src.take i = lines ++ line ∧
    AreLines lines ∧ 10 ∉ line ∧ lines.length + line.length = i ∧
      (Json.Position.after src i).column = line.length := by
  obtain ⟨lines, line, htake, hlines, hline, hcolumn⟩ := exists_lines (src.take i)
  refine ⟨lines, line, htake, hlines, hline, ?_, hcolumn⟩
  rw [← List.length_append, ← htake, List.length_take, Nat.min_eq_left hi]

theorem isLineStart_length (htake : src.take i = lines ++ line) (hlines : AreLines lines)
    (hline : 10 ∉ line) (hlength : lines.length + line.length = i) :
    IsLineStart src i lines.length := by
  refine ⟨by omega, ?_, by rwa [htake, List.drop_left]⟩
  rcases List.eq_nil_or_concat lines with rfl | ⟨whole, feed, rfl⟩
  · exact .inl rfl
  · right
    have hfeed : feed = 10 := hlines feed (by simp)
    rw [List.length_concat] at hlength ⊢
    rw [Nat.add_sub_cancel, ← List.getElem?_take_of_lt (show whole.length < i by omega), htake]
    simp [hfeed]

end Lines

section Offsets

variable {src : Bytes} {line column offset : UInt64}

/-- The sum of the start of the line and the place on it leaves the range of a word. -/
def OffsetOverflows (src : Bytes) (line column : UInt64) : Prop :=
  line ≠ 0 ∧ UInt64.size ≤ lineStart (line.toNat - 1) src + (column.toNat - 1)

theorem lineStart_le_length (n : Nat) (src : Bytes) : lineStart n src ≤ src.length := by
  fun_induction lineStart n src with
  | case1 => exact Nat.zero_le _
  | case2 => exact Nat.zero_le _
  | case3 n b rest ih =>
      rw [List.length_cons]
      omega

theorem toNat_min (a b : UInt64) : (min a b).toNat = min a.toNat b.toNat := by
  change (if a ≤ b then a else b).toNat = _
  rw [Nat.min_def]
  simp only [UInt64.le_iff_toNat_le]
  split <;> rfl

theorem toNat_sub_one {word : UInt64} (hword : word ≠ 0) : (word - 1).toNat = word.toNat - 1 := by
  apply UInt64.toNat_sub_of_le
  rw [UInt64.le_iff_toNat_le]
  exact Nat.one_le_iff_ne_zero.mpr fun hzero => hword (UInt64.toNat_inj.mp hzero)

theorem byteOffset_eq_none_iff : byteOffset src line column = none ↔ line = 0 := by
  simp [byteOffset]

theorem toNat_byteOffset (hsize : src.length < UInt64.size) (hline : line ≠ 0) :
    (byteOffset src line column).map UInt64.toNat =
      some (min ((lineStart (line.toNat - 1) src + (column.toNat - 1)) % UInt64.size)
        src.length) := by
  have honLine : (if column = 0 then 0 else column - 1).toNat = column.toNat - 1 := by
    split
    · rename_i hcolumn
      rw [hcolumn]
      rfl
    · rename_i hcolumn
      exact toNat_sub_one hcolumn
  have hstart := lineStart_le_length (line.toNat - 1) src
  rw [byteOffset, if_neg hline, Option.map_some, toNat_min, UInt64.toNat_add, honLine,
    toNat_sub_one hline, UInt64.toNat_ofNat_of_lt' (by omega), UInt64.toNat_ofNat_of_lt' hsize]

theorem le_of_byteOffset_eq_some (hsize : src.length < UInt64.size)
    (hoffset : byteOffset src line column = some offset) : offset.toNat ≤ src.length := by
  have hline : line ≠ 0 := by
    rintro rfl
    simp [byteOffset] at hoffset
  have hvalue := congrArg (Option.map UInt64.toNat) hoffset
  rw [toNat_byteOffset hsize hline, Option.map_some, Option.some.injEq] at hvalue
  omega

theorem toNat_byteOffset_of_not_overflows (hsize : src.length < UInt64.size) (hline : line ≠ 0)
    (hfits : ¬ OffsetOverflows src line column) :
    (byteOffset src line column).map UInt64.toNat =
      some (min (lineStart (line.toNat - 1) src + (column.toNat - 1)) src.length) := by
  have hsum : lineStart (line.toNat - 1) src + (column.toNat - 1) < UInt64.size :=
    Nat.not_le.mp fun hle => hfits ⟨hline, hle⟩
  rw [toNat_byteOffset hsize hline, Nat.mod_eq_of_lt hsum]

theorem toNat_byteOffset_of_overflows (hsize : src.length < UInt64.size)
    (hoverflows : OffsetOverflows src line column) :
    (byteOffset src line column).map UInt64.toNat =
      some (lineStart (line.toNat - 1) src + (column.toNat - 1) - UInt64.size) := by
  have hstart := lineStart_le_length (line.toNat - 1) src
  have hcolumn := column.toNat_lt_size
  have hsum := hoverflows.2
  rw [toNat_byteOffset hsize hoverflows.1, Nat.mod_eq_sub_mod hsum, Nat.mod_eq_of_lt (by omega),
    Nat.min_eq_left (by omega)]

end Offsets

theorem lineStart_lines {lines line : Bytes} (hlines : AreLines lines) (hline : 10 ∉ line)
    (rest : Bytes) :
    lineStart ((lines ++ line).count 10) (lines ++ line ++ rest) = lines.length := by
  have hcount : (lines ++ line).count 10 = lines.count 10 := by
    rw [List.count_append, List.count_eq_zero.mpr hline, Nat.add_zero]
  rw [hcount, List.append_assoc, lineStart_count hlines]

/-- A place behind `i` bytes, given by its line and column, leads back to the last byte before it on
its line, or to the start of the line if there is none; so do the faults of a text. No line and
column lead beyond the end, and only line zero leads nowhere: a sum that overflows leads to a byte
before the line, any other to the place on the line or to the end of the text. No text takes more
than half of the addresses. -/
theorem byteOffset_exact (src : Bytes) (hsize : src.length < UInt64.size / 2) :
    (∀ i ≤ src.length, ∃ start, (∀ start', IsLineStart src i start' ↔ start' = start) ∧
      Json.Position.after src i = ⟨1 + (src.take i).count 10, i - start⟩ ∧
      (∀ line column : UInt64, line.toNat = 1 + (src.take i).count 10 →
        column.toNat = i - start → ¬ OffsetOverflows src line column ∧
          (byteOffset src line column).map UInt64.toNat = some (max start (i - 1))) ∧
      ∀ text path fault, encode text = src →
        Error.offset? (.malformed (.json ⟨fault, Json.Position.after src i⟩) (some ⟨path, text⟩)) =
          some (max start (i - 1))) ∧
    ∀ line column, (byteOffset src line column = none ↔ line = 0) ∧
      (∀ offset, byteOffset src line column = some offset → offset.toNat ≤ src.length) ∧
      (line ≠ 0 → ¬ OffsetOverflows src line column →
        (byteOffset src line column).map UInt64.toNat =
          some (min (lineStart (line.toNat - 1) src + (column.toNat - 1)) src.length)) ∧
      (OffsetOverflows src line column →
        (byteOffset src line column).map UInt64.toNat =
          some (lineStart (line.toNat - 1) src + (column.toNat - 1) - UInt64.size)) := by
  have hword : src.length < UInt64.size := by omega
  refine ⟨fun i hi => ?_, fun line column => ⟨byteOffset_eq_none_iff,
    fun offset => le_of_byteOffset_eq_some hword, toNat_byteOffset_of_not_overflows hword,
    toNat_byteOffset_of_overflows hword⟩⟩
  obtain ⟨lines, line, htake, hlines, hline, hlength, hcolumn⟩ := exists_lines_before hi
  have hstart := isLineStart_length htake hlines hline hlength
  have hrest : i - lines.length = line.length := by omega
  have hlineStart := lineStart_lines hlines hline (src.drop i)
  rw [← htake, List.take_append_drop] at hlineStart
  have hplace : Json.Position.after src i = ⟨1 + (src.take i).count 10, i - lines.length⟩ := by
    rw [hrest, ← hcolumn]
    rfl
  have hoffset (line column : UInt64) (hline : line.toNat = 1 + (src.take i).count 10)
      (hcolumn : column.toNat = i - lines.length) : ¬ OffsetOverflows src line column ∧
        (byteOffset src line column).map UInt64.toNat = some (max lines.length (i - 1)) := by
    have hbefore : lineStart (line.toNat - 1) src = lines.length := by
      rw [hline, Nat.add_sub_cancel_left, hlineStart]
    have hfits : ¬ OffsetOverflows src line column := by
      rintro ⟨-, hoverflows⟩
      omega
    have hnonzero : line ≠ 0 := by
      rintro rfl
      rw [UInt64.toNat_zero] at hline
      omega
    refine ⟨hfits, ?_⟩
    rw [toNat_byteOffset_of_not_overflows hword hnonzero hfits, hbefore, hcolumn]
    congr 1
    omega
  refine ⟨lines.length, fun start' => ⟨fun hstart' => hstart'.unique hstart, ?_⟩, hplace, hoffset,
    ?_⟩
  · rintro rfl
    exact hstart
  · rintro text path fault rfl
    have hcount : ((encode text).take i).count 10 ≤ i :=
      Nat.le_trans List.count_le_length (List.length_take_le ..)
    have hfault := (hoffset _ _ (UInt64.toNat_ofNat_of_lt' (by omega))
      (UInt64.toNat_ofNat_of_lt' (by omega))).2
    simpa [Error.offset?, Document.Problem.position?, hplace] using hfault

section Umlaut

/-- Two lines; a letter of the second takes two bytes. -/
def umlautText : String := "\x7b\n\"ü\": \x7d"

/-- A fault behind the brace that ends the text is at the brace, and one at the start of the second
line is there. A line beyond the last leads to the end, and a column that overflows to the start. -/
theorem byteOffset_exact_umlautText :
    (9 ≤ (encode umlautText).length ∧ IsLineStart (encode umlautText) 9 2 ∧
      Error.offset? (.malformed (.json ⟨.expectedValue, Json.Position.after (encode umlautText) 9⟩)
        (some ⟨⟨"a.json"⟩, umlautText⟩)) = some 8) ∧
    (IsLineStart (encode umlautText) 2 2 ∧
      Json.Position.after (encode umlautText) 2 = ⟨2, 0⟩ ∧
      (byteOffset (encode umlautText) 2 0).map UInt64.toNat = some 2) ∧
    (byteOffset (encode umlautText) 9 9 = some 9 ∧ 9 ≤ (encode umlautText).length) ∧
    OffsetOverflows (encode umlautText) 2 0xFFFFFFFFFFFFFFFF ∧
      (byteOffset (encode umlautText) 2 0xFFFFFFFFFFFFFFFF).map UInt64.toNat = some 0 := by
  have hlength : (encode umlautText).length = 9 := by decide +kernel
  have hend : IsLineStart (encode umlautText) 9 2 :=
    ⟨by decide, by decide +kernel, by decide +kernel⟩
  have hsecond : IsLineStart (encode umlautText) 2 2 :=
    ⟨by decide, by decide +kernel, by decide +kernel⟩
  have hbeyond : byteOffset (encode umlautText) 9 9 = some 9 := by decide +kernel
  have hlineStart : lineStart 1 (encode umlautText) = 2 := by decide +kernel
  have hoverflows : OffsetOverflows (encode umlautText) 2 0xFFFFFFFFFFFFFFFF :=
    ⟨by decide, by rw [show (2 : UInt64).toNat - 1 = 1 from rfl, hlineStart]; decide⟩
  obtain ⟨hplaces, hbounds⟩ := byteOffset_exact (encode umlautText) (by rw [hlength]; decide)
  obtain ⟨start, hstart, -, -, hfault⟩ := hplaces 9 (by omega)
  obtain ⟨start', hstart', hplace, hoffset, -⟩ := hplaces 2 (by omega)
  obtain rfl := (hstart 2).mp hend
  obtain rfl := (hstart' 2).mp hsecond
  have hcount : ((encode umlautText).take 2).count 10 = 1 := by decide +kernel
  rw [hcount] at hplace hoffset
  have hwrapped := (hbounds 2 0xFFFFFFFFFFFFFFFF).2.2.2 hoverflows
  rw [show (2 : UInt64).toNat - 1 = 1 from rfl, hlineStart] at hwrapped
  exact ⟨⟨by omega, hend, hfault _ _ _ rfl⟩, ⟨hsecond, hplace, (hoffset 2 0 rfl rfl).2⟩,
    ⟨hbeyond, (hbounds 9 9).2.1 9 hbeyond⟩, hoverflows, hwrapped⟩

end Umlaut

end Lexgen
