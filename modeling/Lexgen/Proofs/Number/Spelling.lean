import Lexgen.Json.Printer

namespace Lexgen

/-- A number without its sign, as it is spelled. -/
structure Spelling where
  whole : List Char
  places : List Char
  power : Option Int

namespace Spelling

def powerChars (power : Int) : List Char :=
  'e' :: (if power < 0 then '-' else '+') :: Nat.toDigits 10 power.natAbs

def chars (s : Spelling) : List Char :=
  s.whole ++ ((if s.places.isEmpty then [] else '.' :: s.places) ++ s.power.elim [] powerChars)

structure IsProper (s : Spelling) : Prop where
  whole_ne_nil : s.whole ≠ []
  isDigit_whole : ∀ c ∈ s.whole, c.isDigit
  isDigit_places : ∀ c ∈ s.places, c.isDigit

/-- The number that a spelling stands for, given the sign before it. -/
def number (s : Spelling) (negative : Bool) : Number :=
  let value := Nat.ofDigitChars 10 (s.whole ++ s.places) 0
  if s.places.isEmpty && s.power.isNone then .integer (if negative then -(value : Int) else value)
  else .real (Decimal.normalize ⟨negative, value, s.power.getD 0 - s.places.length⟩)

end Spelling

/-- The number that digits spell; nothing if there are none, or something else is among them. -/
def readNatural (cs : List Char) : Option Nat :=
  if !cs.isEmpty && cs.all Char.isDigit then some (Nat.ofDigitChars 10 cs 0) else none

def readPlaces : List Char → Option (List Char × List Char)
  | '.' :: cs =>
    let places := cs.takeWhile Char.isDigit
    if places.isEmpty then none else some (places, cs.dropWhile Char.isDigit)
  | cs => some ([], cs)

def readPower : List Char → Option (Option Int)
  | [] => some none
  | 'e' :: '+' :: cs => (readNatural cs).map fun n : Nat => some (n : Int)
  | 'e' :: '-' :: cs => (readNatural cs).map fun n : Nat => some (-(n : Int))
  | _ => none

def readSpelling (cs : List Char) : Option Spelling :=
  let whole := cs.takeWhile Char.isDigit
  if whole.isEmpty then none
  else do
    let (places, rest) ← readPlaces (cs.dropWhile Char.isDigit)
    let power ← readPower rest
    some ⟨whole, places, power⟩

def readNumber : List Char → Option Number
  | '-' :: cs => (readSpelling cs).map (·.number true)
  | cs => (readSpelling cs).map (·.number false)

section Reading

theorem isDigit_of_mem_toDigits {c : Char} {n : Nat} (hc : c ∈ Nat.toDigits 10 n) : c.isDigit :=
  Nat.isDigit_of_mem_toDigits (by decide) (by decide) hc

theorem readNatural_toDigits (n : Nat) : readNatural (Nat.toDigits 10 n) = some n := by
  have hall : (Nat.toDigits 10 n).all Char.isDigit :=
    List.all_eq_true.mpr fun _ => isDigit_of_mem_toDigits
  rw [readNatural, hall, Nat.ofDigitChars_ten_toDigits]
  simp [Nat.toDigits_ne_nil]

theorem readPower_powerChars (power : Int) :
    readPower (Spelling.powerChars power) = some (some power) := by
  rw [Spelling.powerChars]
  split
  · rw [readPower, readNatural_toDigits]
    simp only [Option.map_some, Option.some.injEq]
    omega
  · rw [readPower, readNatural_toDigits]
    simp only [Option.map_some, Option.some.injEq]
    omega

theorem readPower_elim (power : Option Int) :
    readPower (power.elim [] Spelling.powerChars) = some power := by
  cases power with
  | none => rfl
  | some power => exact readPower_powerChars power

section Cut

variable {p : Char → Bool} {front rest : List Char}

theorem takeWhile_append_of_head? (hfront : ∀ c ∈ front, p c)
    (hrest : ∀ c ∈ rest.head?, p c = false) : (front ++ rest).takeWhile p = front := by
  rw [List.takeWhile_append_of_pos hfront]
  cases rest with
  | nil => simp
  | cons c rest => simp [hrest c rfl]

theorem dropWhile_append_of_head? (hfront : ∀ c ∈ front, p c)
    (hrest : ∀ c ∈ rest.head?, p c = false) : (front ++ rest).dropWhile p = rest := by
  rw [List.dropWhile_append_of_pos hfront]
  cases rest with
  | nil => rfl
  | cons c rest => simp [hrest c rfl]

end Cut

theorem readPlaces_append {places rest : List Char} (hplaces : ∀ c ∈ places, c.isDigit)
    (hrest : ∀ c ∈ rest.head?, c.isDigit = false) (hpoint : rest.head? ≠ some '.') :
    readPlaces ((if places.isEmpty then [] else '.' :: places) ++ rest) = some (places, rest) := by
  cases places with
  | nil =>
      rw [readPlaces.eq_def]
      split
      · rename_i cs heq
        exact absurd (congrArg List.head? heq) hpoint
      · rfl
  | cons c places =>
      show readPlaces ('.' :: (c :: places ++ rest)) = _
      rw [readPlaces, takeWhile_append_of_head? hplaces hrest,
        dropWhile_append_of_head? hplaces hrest]
      rfl

theorem head?_powerChars {power : Option Int} {c : Char}
    (hc : c ∈ (power.elim [] Spelling.powerChars).head?) : c = 'e' := by
  cases power with
  | none => simp at hc
  | some power => exact (Option.some.inj hc).symm

theorem readSpelling_chars {s : Spelling} (hs : s.IsProper) : readSpelling s.chars = some s := by
  obtain ⟨whole, places, power⟩ := s
  have hplaces : readPlaces ((if places.isEmpty then [] else '.' :: places) ++
      power.elim [] Spelling.powerChars) = some (places, power.elim [] Spelling.powerChars) :=
    readPlaces_append hs.isDigit_places (fun c hc => by rw [head?_powerChars hc]; rfl)
      (fun hpoint => absurd (head?_powerChars hpoint) (by decide))
  have htail : ∀ c ∈ ((if places.isEmpty then [] else '.' :: places) ++
      power.elim [] Spelling.powerChars).head?, c.isDigit = false := by
    intro c hc
    cases places with
    | nil => rw [head?_powerChars hc]; rfl
    | cons d places => rw [← Option.some.inj hc]; rfl
  rw [readSpelling, Spelling.chars, takeWhile_append_of_head? hs.isDigit_whole htail,
    dropWhile_append_of_head? hs.isDigit_whole htail, hplaces]
  have hwhole : whole ≠ [] := hs.whole_ne_nil
  simp [hwhole, readPower_elim]

end Reading

section Decimals

theorem dropNoughts_mul_pow {fuel k : Nat} {d : Decimal} (hd : d.coefficient % 10 ≠ 0)
    (hk : k ≤ fuel) :
    Decimal.dropNoughts fuel ⟨d.negative, d.coefficient * Nat.pow 10 k, d.exponent - k⟩ = d := by
  induction k generalizing fuel with
  | zero =>
      cases fuel with
      | zero => simp [Decimal.dropNoughts]
      | succ fuel => simp [Decimal.dropNoughts, hd]
  | succ k ih =>
      obtain ⟨fuel, rfl⟩ : ∃ n, fuel = n + 1 := ⟨fuel - 1, by omega⟩
      have hcoefficient : d.coefficient * Nat.pow 10 (k + 1) = d.coefficient * Nat.pow 10 k * 10 :=
        (Nat.mul_assoc _ _ _).symm
      have hexponent : d.exponent - ((k + 1 : Nat) : Int) + 1 = d.exponent - k := by omega
      rw [Decimal.dropNoughts, hcoefficient]
      simp only [Nat.mul_mod_left, Nat.mul_div_cancel _ (show 0 < 10 by decide), hexponent, if_true]
      exact ih (by omega)

theorem le_length_toDigits_mul_pow {n : Nat} (hn : 0 < n) (k : Nat) :
    k ≤ (Nat.toDigits 10 (n * Nat.pow 10 k)).length := by
  have hlower : Nat.pow 10 k ≤ n * Nat.pow 10 k := Nat.le_mul_of_pos_left _ hn
  have hupper := Decimal.lt_ten_pow_length_toDigits (n * Nat.pow 10 k)
  exact Nat.le_of_lt ((Nat.pow_lt_pow_iff_right (by decide)).mp (Nat.lt_of_le_of_lt hlower hupper))

theorem normalize_mul_pow (d : NormalDecimal) (k : Nat) :
    Decimal.normalize ⟨d.negative, d.coefficient * Nat.pow 10 k, d.exponent - k⟩ = d := by
  obtain ⟨⟨negative, coefficient, exponent⟩, hnormal⟩ := d
  rcases id hnormal with hd | ⟨hzero, hexponent⟩
  · have hpos : 0 < coefficient := Nat.pos_of_ne_zero fun hzero => hd (by simp [hzero])
    have hne : coefficient * Nat.pow 10 k ≠ 0 := Nat.mul_ne_zero (by omega) (by simp)
    rw [Decimal.normalize, dif_neg hne]
    congr 1
    exact dropNoughts_mul_pow hd (le_length_toDigits_mul_pow hpos k)
  · obtain rfl : coefficient = 0 := hzero
    obtain rfl : exponent = 0 := hexponent
    rw [Decimal.normalize, dif_pos (Nat.zero_mul _)]
    rfl

theorem number_eq_real {s : Spelling} {d : NormalDecimal} {k : Nat}
    (hreal : s.places ≠ [] ∨ s.power.isSome)
    (hvalue : Nat.ofDigitChars 10 (s.whole ++ s.places) 0 = d.coefficient * Nat.pow 10 k)
    (hpower : s.power.getD 0 - s.places.length = d.exponent - k) :
    s.number d.negative = .real d := by
  have hkind : (s.places.isEmpty && s.power.isNone) = false := by
    rcases hreal with hplaces | hsome
    · simp [hplaces]
    · rw [Option.isNone_eq_false_iff.mpr hsome, Bool.and_false]
  simp only [Spelling.number, hkind, hvalue, hpower, normalize_mul_pow, Bool.false_eq_true,
    if_false]

/-- The text `text` without a sign is that of a spelling which stands for `d`. -/
def IsSpelled (d : NormalDecimal) (text : List Char) : Prop :=
  ∃ s : Spelling, s.IsProper ∧ s.chars = text ∧ s.number d.negative = .real d

structure IsDigits (digits : List Char) (n : Nat) : Prop where
  ne_nil : digits ≠ []
  isDigit : ∀ c ∈ digits, c.isDigit
  value : Nat.ofDigitChars 10 digits 0 = n

theorem isDigits_toDigits (n : Nat) : IsDigits (Nat.toDigits 10 n) n :=
  ⟨Nat.toDigits_ne_nil, fun _ => isDigit_of_mem_toDigits, Nat.ofDigitChars_ten_toDigits⟩

theorem isDigit_of_mem_noughts {n : Int} {c : Char} (hc : c ∈ Decimal.noughts n) : c.isDigit := by
  rw [List.eq_of_mem_replicate hc]
  rfl

variable {d : NormalDecimal} {digits : List Char}

theorem isSpelled_point_behind (hdigits : IsDigits digits d.coefficient)
    (hexponent : 0 ≤ d.exponent) :
    IsSpelled d (digits ++ Decimal.noughts d.exponent ++ ['.', '0']) := by
  -- The place behind the point is one nought more than the exponent asks for.
  refine ⟨⟨digits ++ Decimal.noughts d.exponent, ['0'], none⟩, ⟨?_, ?_, ?_⟩, ?_,
    number_eq_real (k := d.exponent.toNat + 1) (.inl (List.cons_ne_nil _ _)) ?_ ?_⟩
  · simp [hdigits.ne_nil]
  · intro c hc
    exact (List.mem_append.mp hc).elim (hdigits.isDigit c) isDigit_of_mem_noughts
  · simp
  · simp [Spelling.chars]
  · show Nat.ofDigitChars 10 (digits ++ Decimal.noughts d.exponent ++ ['0']) 0 = _
    rw [Decimal.noughts, List.append_assoc, ← List.replicate_succ', Nat.ofDigitChars_append,
      Nat.ofDigitChars_replicate_zero, hdigits.value, Nat.mul_comm]
    rfl
  · show (0 : Int) - (1 : Nat) = _
    omega

theorem isSpelled_point_inside (hdigits : IsDigits digits d.coefficient) {n : Nat}
    (hpos : 0 < n) (hn : (n : Int) = digits.length + d.exponent) (hexponent : d.exponent < 0) :
    IsSpelled d (digits.take n ++ '.' :: digits.drop n) := by
  have hplaces : digits.drop n ≠ [] := by
    rw [Ne, List.drop_eq_nil_iff]
    omega
  refine ⟨⟨digits.take n, digits.drop n, none⟩, ⟨?_, ?_, ?_⟩, ?_,
    number_eq_real (k := 0) (.inl hplaces) ?_ ?_⟩
  · simp only [Ne, List.take_eq_nil_iff, hdigits.ne_nil, or_false]
    omega
  · exact fun c hc => hdigits.isDigit c (List.mem_of_mem_take hc)
  · exact fun c hc => hdigits.isDigit c (List.mem_of_mem_drop hc)
  · simp [Spelling.chars, hplaces]
  · simp [hdigits.value]
  · simp only [Option.getD_none, List.length_drop]
    omega

theorem isSpelled_point_before (hdigits : IsDigits digits d.coefficient)
    (hexponent : digits.length + d.exponent ≤ 0) :
    IsSpelled d (['0', '.'] ++ Decimal.noughts (-(digits.length + d.exponent)) ++ digits) := by
  refine ⟨⟨['0'], Decimal.noughts (-(digits.length + d.exponent)) ++ digits, none⟩,
    ⟨List.cons_ne_nil _ _, by simp, ?_⟩, ?_, number_eq_real (k := 0) (.inl ?_) ?_ ?_⟩
  · intro c hc
    exact (List.mem_append.mp hc).elim isDigit_of_mem_noughts (hdigits.isDigit c)
  · simp [Spelling.chars, hdigits.ne_nil]
  · simp [hdigits.ne_nil]
  · show Nat.ofDigitChars 10 ('0' :: (Decimal.noughts _ ++ digits)) 0 = _
    rw [Nat.ofDigitChars_cons, Nat.ofDigitChars_append, Decimal.noughts,
      Nat.ofDigitChars_replicate_zero, ← hdigits.value]
    exact (Nat.mul_one _).symm
  · simp only [Option.getD_none, List.length_append, Decimal.noughts, List.length_replicate]
    omega

theorem isSpelled_positional (hdigits : IsDigits digits d.coefficient) :
    IsSpelled d (Decimal.positional digits d.exponent) := by
  rw [Decimal.positional]
  split
  · rename_i hexponent
    exact isSpelled_point_behind hdigits hexponent
  · rename_i hexponent
    simp only
    split
    · rename_i hwhole
      exact isSpelled_point_inside hdigits (by omega) (by omega) (by omega)
    · rename_i hwhole
      exact isSpelled_point_before hdigits (by omega)

theorem isSpelled_scientific (hdigits : IsDigits digits d.coefficient) :
    IsSpelled d (Decimal.scientific digits (d.exponent + digits.length - 1)) := by
  obtain ⟨first, rest, rfl⟩ := List.exists_cons_of_ne_nil hdigits.ne_nil
  refine ⟨⟨[first], rest, some (d.exponent + (first :: rest).length - 1)⟩,
    ⟨List.cons_ne_nil _ _, ?_, ?_⟩, ?_, number_eq_real (k := 0) (.inr rfl) ?_ ?_⟩
  · intro c hc
    rw [List.mem_singleton.mp hc]
    exact hdigits.isDigit first List.mem_cons_self
  · exact fun c hc => hdigits.isDigit c (List.mem_cons_of_mem first hc)
  · cases rest <;> simp [Spelling.chars, Spelling.powerChars, Decimal.scientific]
  · simpa using hdigits.value
  · simp only [Option.getD_some, List.length_cons]
    omega

theorem isSpelled_unsignedChars (d : NormalDecimal) : IsSpelled d d.unsignedChars := by
  rw [Decimal.unsignedChars]
  split
  · rename_i hzero
    have hexponent : d.exponent = 0 := d.normal.elim (by simp [hzero]) (·.2)
    refine ⟨⟨['0'], ['0'], none⟩, ⟨by simp, by simp, by simp⟩, rfl,
      number_eq_real (k := 1) (.inl (by simp)) ?_ ?_⟩
    · rw [hzero]
      rfl
    · rw [hexponent]
      rfl
  · split
    · exact isSpelled_positional (isDigits_toDigits d.coefficient)
    · exact isSpelled_scientific (isDigits_toDigits d.coefficient)

end Decimals

section Numbers

theorem number_eq_integer {digits : List Char} {n : Nat} (hdigits : IsDigits digits n)
    (negative : Bool) :
    (Spelling.mk digits [] none).number negative =
      .integer (if negative then -(n : Int) else n) := by
  simp [Spelling.number, hdigits.value]

/-- Every number is written as a spelling that stands for it, behind its sign. -/
theorem exists_spelling (n : Number) : ∃ (negative : Bool) (s : Spelling), s.IsProper ∧
    n.chars = (if negative then '-' :: s.chars else s.chars) ∧ s.number negative = n := by
  have hproper (n : Nat) : (Spelling.mk (Nat.toDigits 10 n) [] none).IsProper :=
    ⟨Nat.toDigits_ne_nil, fun _ => isDigit_of_mem_toDigits, by simp⟩
  match n with
  | .integer (.ofNat n) =>
      refine ⟨false, _, hproper n, ?_, number_eq_integer (isDigits_toDigits n) false⟩
      simp [Number.chars, Spelling.chars]
  | .integer (.negSucc n) =>
      refine ⟨true, _, hproper (n + 1), ?_, number_eq_integer (isDigits_toDigits (n + 1)) true⟩
      simp [Number.chars, Spelling.chars]
  | .real d =>
      obtain ⟨s, hs, hchars, hnumber⟩ := isSpelled_unsignedChars d
      exact ⟨d.negative, s, hs, by rw [Number.chars, Decimal.chars, hchars], hnumber⟩

theorem readNumber_chars (n : Number) : readNumber n.chars = some n := by
  obtain ⟨negative, s, hs, hchars, hnumber⟩ := exists_spelling n
  rw [hchars]
  cases negative with
  | true =>
      show (readSpelling s.chars).map (·.number true) = _
      rw [readSpelling_chars hs, Option.map_some, hnumber]
  | false =>
      -- A spelling starts with a digit, so no sign is read where none was written.
      have hsign : ∀ cs, s.chars ≠ '-' :: cs := by
        intro cs hcs
        obtain ⟨first, rest, hwhole⟩ := List.exists_cons_of_ne_nil hs.whole_ne_nil
        have hdigit : first.isDigit := hs.isDigit_whole first (by simp [hwhole])
        rw [Spelling.chars, hwhole] at hcs
        rw [(List.cons.inj hcs).1] at hdigit
        exact absurd hdigit (by decide)
      rw [if_neg Bool.false_ne_true, readNumber, readSpelling_chars hs, Option.map_some, hnumber]
      exact hsign

def isNumeric (c : Char) : Bool := c.isDigit || ['+', '-', '.', 'e'].contains c

theorem isNumeric_of_isDigit {c : Char} (hc : c.isDigit) : isNumeric c := by
  rw [isNumeric, hc, Bool.true_or]

theorem Spelling.IsProper.isNumeric_of_mem {s : Spelling} (hs : s.IsProper) {c : Char}
    (hc : c ∈ s.chars) : isNumeric c := by
  rw [Spelling.chars, List.mem_append, List.mem_append] at hc
  rcases hc with hc | hc | hc
  · exact isNumeric_of_isDigit (hs.isDigit_whole c hc)
  · split at hc
    · simp at hc
    · rcases List.mem_cons.mp hc with rfl | hc
      · rfl
      · exact isNumeric_of_isDigit (hs.isDigit_places c hc)
  · cases hpower : s.power with
    | none => simp [hpower] at hc
    | some power =>
        rw [hpower, Option.elim_some, Spelling.powerChars, List.mem_cons, List.mem_cons] at hc
        rcases hc with rfl | rfl | hc
        · rfl
        · split <;> rfl
        · exact isNumeric_of_isDigit (isDigit_of_mem_toDigits hc)

theorem isNumeric_of_mem_chars {n : Number} {c : Char} (hc : c ∈ n.chars) : isNumeric c := by
  obtain ⟨negative, s, hs, hchars, -⟩ := exists_spelling n
  rw [hchars] at hc
  cases negative with
  | true =>
      rcases List.mem_cons.mp hc with rfl | hc
      · rfl
      · exact hs.isNumeric_of_mem hc
  | false => exact hs.isNumeric_of_mem hc

end Numbers

end Lexgen
