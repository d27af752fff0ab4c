import Lexgen.Proofs.Names.QualifiedReference
import Lexgen.Proofs.Nsid.Segments
import Lexgen.Proofs.Text.AsciiCase
import Mathlib.Data.List.Forall2

namespace Lexgen

open Lexgen.Text

namespace Names

def wordLetters : List Char → List (Char × Bool)
  | [] => []
  | c :: rest => (c, true) :: rest.map (·, false)

/-- The characters of a segment without its hyphens, each with whether it starts a word. -/
def letters (segment : List Char) : List (Char × Bool) :=
  (splitAtChar '-' segment).flatMap wordLetters

/-- A letter stands for a capital when it is one or starts a word. -/
def standsForCapital (letter : Char × Bool) : Bool := letter.2 || !letter.1.isLower

/-- The same letter apart from its case, and either both stand for a capital or neither does. -/
def SameLetter (a b : Char × Bool) : Prop :=
  a.1.toUpper = b.1.toUpper ∧ standsForCapital a = standsForCapital b

def SameSegment (s t : String) : Prop :=
  List.Forall₂ SameLetter (letters s.toList) (letters t.toList)

/-- The segments of two NSIDs are the same one by one. -/
def AlikeNsids (nsid nsid' : String) : Prop :=
  List.Forall₂ SameSegment (segments '.' nsid) (segments '.' nsid')

instance (a b : Char × Bool) : Decidable (SameLetter a b) := inferInstanceAs (Decidable (_ ∧ _))

instance (s t : String) : Decidable (SameSegment s t) :=
  inferInstanceAs (Decidable (List.Forall₂ _ _ _))

instance (nsid nsid' : String) : Decidable (AlikeNsids nsid nsid') :=
  inferInstanceAs (Decidable (List.Forall₂ _ _ _))

theorem SameSegment.symm {s t : String} (h : SameSegment s t) : SameSegment t s :=
  (h.imp fun _ _ hsame => ⟨hsame.1.symm, hsame.2.symm⟩ : List.Forall₂ (flip SameLetter) _ _).flip

theorem AlikeNsids.symm {nsid nsid' : String} (h : AlikeNsids nsid nsid') : AlikeNsids nsid' nsid :=
  (h.imp fun _ _ hsame => hsame.symm : List.Forall₂ (flip SameSegment) _ _).flip

theorem AlikeNsids.refl (nsid : String) : AlikeNsids nsid nsid :=
  List.forall₂_same.mpr fun _ _ => List.forall₂_same.mpr fun _ _ => ⟨rfl, rfl⟩

section Letters

theorem eq_of_toUpper_eq {c d : Char} (hc : c.isLower = true) (hd : d.isLower = true)
    (hupper : c.toUpper = d.toUpper) : c = d := by
  apply Char.toNat_inj.mp
  rw [← toNat_toUpper hc, ← toNat_toUpper hd, hupper]

/-- What is made of a letter in title case. -/
def raised (letter : Char × Bool) : Char := if letter.2 then letter.1.toUpper else letter.1

theorem raised_eq (letter : Char × Bool) :
    raised letter = if standsForCapital letter then letter.1.toUpper else letter.1 := by
  obtain ⟨c, starts⟩ := letter
  cases starts with
  | true => rfl
  | false =>
      cases hlower : c.isLower with
      | true => simp [raised, standsForCapital, hlower]
      | false =>
          have hupper : c.toUpper = c := toUpper_of_not_isLower (by simp [hlower])
          simp [raised, standsForCapital, hlower, hupper]

theorem isLower_of_not_standsForCapital {letter : Char × Bool}
    (hcapital : standsForCapital letter = false) : letter.1.isLower = true := by
  simp only [standsForCapital, Bool.or_eq_false_iff, Bool.not_eq_false'] at hcapital
  exact hcapital.2

theorem raised_eq_raised_iff {a b : Char × Bool} : raised a = raised b ↔ SameLetter a b := by
  rw [raised_eq, raised_eq, SameLetter]
  cases ha : standsForCapital a <;> cases hb : standsForCapital b
  · have hlower := isLower_of_not_standsForCapital ha
    have hlower' := isLower_of_not_standsForCapital hb
    constructor
    · intro heq
      exact ⟨congrArg Char.toUpper heq, rfl⟩
    · rintro ⟨heq, -⟩
      exact eq_of_toUpper_eq hlower hlower' heq
  · have hlower := isLower_of_not_standsForCapital ha
    have hnot : a.1 ≠ b.1.toUpper := by
      intro heq
      rw [heq] at hlower
      exact not_isLower_toUpper b.1 hlower
    simp [hnot]
  · have hlower := isLower_of_not_standsForCapital hb
    have hnot : a.1.toUpper ≠ b.1 := by
      intro heq
      rw [← heq] at hlower
      exact not_isLower_toUpper a.1 hlower
    simp [hnot]
  · simp

end Letters

section Segments

theorem isAscii_of_isInner {c : Char} (hc : Nsid.isInner c = true) : isAscii c = true := by
  simp only [Nsid.isInner, Bool.or_eq_true, beq_iff_eq, isAlphanum_iff, isAlpha_iff, isUpper_iff,
    isLower_iff, isDigit_iff] at hc
  simp only [isAscii, decide_eq_true_eq]
  rcases hc with hc | rfl
  · omega
  · decide

theorem capitalizeChars_eq_map {word : List Char} (hascii : ∀ c ∈ word, isAscii c = true) :
    capitalizeChars word = (wordLetters word).map raised := by
  cases word with
  | nil => rfl
  | cons c rest =>
      have hc : isAscii c = true := hascii c List.mem_cons_self
      simp [capitalizeChars, upperForm, hc, wordLetters, raised, Function.comp_def]

theorem titleSegment_eq_map {segment : List Char} (hlabel : Nsid.IsLabel segment) :
    titleSegment segment = (letters segment).map raised := by
  rw [titleSegment, letters, List.map_flatMap]
  apply List.flatMap_congr
  intro word hword
  apply capitalizeChars_eq_map
  intro c hc
  rw [splitAtChar_eq_splitOn] at hword
  exact isAscii_of_isInner (hlabel.2 c (mem_of_mem_splitOn hword hc).1)

theorem titleSegment_eq_iff {s t : String} (hs : Nsid.IsLabel s.toList)
    (ht : Nsid.IsLabel t.toList) :
    titleSegment s.toList = titleSegment t.toList ↔ SameSegment s t := by
  rw [titleSegment_eq_map hs, titleSegment_eq_map ht, SameSegment, ← List.forall₂_eq_eq_eq,
    List.forall₂_map_left_iff, List.forall₂_map_right_iff]
  simp only [raised_eq_raised_iff]

theorem map_titleSegment_eq_iff {ss ts : List String} (hss : ∀ s ∈ ss, Nsid.IsLabel s.toList)
    (hts : ∀ t ∈ ts, Nsid.IsLabel t.toList) :
    ss.map (fun s => titleSegment s.toList) = ts.map (fun t => titleSegment t.toList) ↔
      List.Forall₂ SameSegment ss ts := by
  induction ss generalizing ts with
  | nil => rw [List.forall₂_nil_left_iff, List.map_nil, eq_comm, List.map_eq_nil_iff]
  | cons s ss ih =>
      cases ts with
      | nil => simp
      | cons t ts =>
          rw [List.forall_mem_cons] at hss hts
          rw [List.map_cons, List.map_cons, List.cons.injEq, List.forall₂_cons,
            titleSegment_eq_iff hss.1 hts.1, ih hss.2 hts.2]

end Segments

section Dots

theorem toUpper_ne_dot {c : Char} (hc : c ≠ '.') : c.toUpper ≠ '.' := by
  by_cases hlower : c.isLower = true
  · intro heq
    have hupper := toNat_toUpper hlower
    rw [heq] at hupper
    rw [isLower_iff, ← hupper] at hlower
    exact absurd hlower.1 (by decide)
  · rwa [toUpper_of_not_isLower hlower]

theorem ofNat_ne_dot {n : Nat} (hn : '.'.toNat < n) : Char.ofNat n ≠ '.' := by
  intro heq
  by_cases hvalid : n.isValidChar
  · have hchar : Char.ofNat n = Char.ofNatAux n hvalid := dif_pos hvalid
    have hvalue : n = '.'.toNat := congrArg Char.toNat (hchar.symm.trans heq)
    omega
  · have hchar : Char.ofNat n = '\x00' := dif_neg hvalid
    exact absurd (hchar.symm.trans heq) (by decide)

theorem dot_not_mem_upperForm {c : Char} (hc : c ≠ '.') : '.' ∉ upperForm c := by
  have hsequences : ∀ row ∈ toUpperSequences, '.' ∉ row.2.map Char.ofNat := by decide +kernel
  have himages : ∀ row ∈ toUpperShifts, '.'.toNat < row.2.2.2 := by decide +kernel
  rw [upperForm]
  split
  · exact List.mem_singleton.not.mpr (toUpper_ne_dot hc).symm
  · split
    · rename_i hrow
      exact hsequences _ (List.mem_of_find?_eq_some hrow)
    · rw [List.mem_singleton]
      cases himage : toUpperShifts.image? c.toNat with
      | none => exact hc.symm
      | some image =>
          obtain ⟨row, hrow, rfl⟩ := Option.map_eq_some_iff.mp himage
          have hlarge := himages row (List.mem_of_find?_eq_some hrow)
          exact (ofNat_ne_dot (Nat.lt_add_right _ hlarge)).symm

theorem dot_not_mem_capitalizeChars {cs : List Char} (hcs : '.' ∉ cs) :
    '.' ∉ capitalizeChars cs := by
  cases cs with
  | nil => exact hcs
  | cons c rest =>
      rw [List.mem_cons, not_or] at hcs
      rw [capitalizeChars, List.mem_append, not_or]
      exact ⟨dot_not_mem_upperForm (Ne.symm hcs.1), hcs.2⟩

theorem dot_not_mem_titleSegment {segment : List Char} (hsegment : '.' ∉ segment) :
    '.' ∉ titleSegment segment := by
  intro hmem
  obtain ⟨word, hword, hdot⟩ := List.mem_flatMap.mp hmem
  rw [splitAtChar_eq_splitOn] at hword
  refine dot_not_mem_capitalizeChars ?_ hdot
  intro hdot'
  exact hsegment (mem_of_mem_splitOn hword hdot').1

end Dots

section Joined

variable {mark : Char} {x y : List Char} {xs ys : List (List Char)}

theorem append_mark_eq_iff {rest rest' : List Char} (hx : mark ∉ x) (hy : mark ∉ y) :
    x ++ mark :: rest = y ++ mark :: rest' ↔ x = y ∧ rest = rest' := by
  constructor
  · intro heq
    have hcut : cutFirst mark (x ++ mark :: rest) = some (x, rest) :=
      cutFirst_eq_some_iff.mpr ⟨hx, rfl⟩
    have hcut' : cutFirst mark (y ++ mark :: rest') = some (y, rest') :=
      cutFirst_eq_some_iff.mpr ⟨hy, rfl⟩
    rw [heq] at hcut
    exact Prod.mk.inj (Option.some.inj (hcut.symm.trans hcut'))
  · rintro ⟨rfl, rfl⟩
    rfl

/-- Pieces joined by a mark, of which only the last may hold the mark: texts are the same exactly
when the pieces of one begin with those of the other and the rest is in the last piece. -/
theorem intercalate_concat_eq_iff (hxs : ∀ piece ∈ xs, mark ∉ piece)
    (hys : ∀ piece ∈ ys, mark ∉ piece) :
    [mark].intercalate (xs ++ [x]) = [mark].intercalate (ys ++ [y]) ↔
      (∃ further, ys = xs ++ further ∧ x = [mark].intercalate (further ++ [y])) ∨
        ∃ further, xs = ys ++ further ∧ y = [mark].intercalate (further ++ [x]) := by
  induction xs generalizing ys with
  | nil =>
      constructor
      · intro heq
        exact .inl ⟨ys, rfl, by simpa using heq⟩
      · rintro (⟨further, rfl, heq⟩ | ⟨further, hnil, heq⟩)
        · simpa using heq
        · obtain ⟨rfl, rfl⟩ := List.append_eq_nil_iff.mp hnil.symm
          simpa using heq.symm
  | cons piece xs ih =>
      cases ys with
      | nil =>
          constructor
          · intro heq
            exact .inr ⟨piece :: xs, rfl, by simpa using heq.symm⟩
          · rintro (⟨further, hnil, -⟩ | ⟨further, rfl, heq⟩)
            · simp at hnil
            · simpa using heq.symm
      | cons piece' ys =>
          rw [List.forall_mem_cons] at hxs hys
          rw [List.cons_append, List.cons_append,
            List.intercalate_cons_of_ne_nil (by simp), List.intercalate_cons_of_ne_nil (by simp),
            List.append_assoc, List.append_assoc, List.singleton_append, List.singleton_append,
            append_mark_eq_iff hxs.1 hys.1, ih hxs.2 hys.2]
          simp only [List.cons_append, List.cons.injEq]
          constructor
          · rintro ⟨rfl, ⟨further, hsplit⟩ | ⟨further, hsplit⟩⟩
            · exact .inl ⟨further, ⟨rfl, hsplit.1⟩, hsplit.2⟩
            · exact .inr ⟨further, ⟨rfl, hsplit.1⟩, hsplit.2⟩
          · rintro (⟨further, ⟨rfl, hsplit⟩, hlast⟩ | ⟨further, ⟨rfl, hsplit⟩, hlast⟩)
            · exact ⟨rfl, .inl ⟨further, hsplit, hlast⟩⟩
            · exact ⟨rfl, .inr ⟨further, hsplit, hlast⟩⟩

theorem exists_append_iff {P : List (List Char) → Prop} :
    (∃ further, ys = xs ++ further ∧ P further) ↔
      xs = ys.take xs.length ∧ P (ys.drop xs.length) := by
  constructor
  · rintro ⟨further, rfl, hfurther⟩
    simpa using hfurther
  · rintro ⟨hxs, hfurther⟩
    refine ⟨ys.drop xs.length, ?_, hfurther⟩
    calc ys = ys.take xs.length ++ ys.drop xs.length := (List.take_append_drop _ _).symm
      _ = xs ++ ys.drop xs.length := by rw [← hxs]

end Joined

theorem toList_titleCase {s : String} (hs : '.' ∉ s.toList) :
    (titleCase s).toList = titleSegment s.toList := by
  simp [titleCase, titleChars, splitAtChar_eq_splitOn, List.splitOn_eq_singleton hs]

theorem toList_intercalate_titleCase {ss : List String} (hss : ∀ s ∈ ss, '.' ∉ s.toList)
    (last : String) :
    (".".intercalate (ss.map titleCase ++ [last])).toList =
      ['.'].intercalate (ss.map (fun s => titleSegment s.toList) ++ [last.toList]) := by
  have hmap : (ss.map titleCase).map String.toList = ss.map fun s => titleSegment s.toList := by
    rw [List.map_map]
    exact List.map_congr_left fun s hs => toList_titleCase (hss s hs)
  rw [String.toList_intercalate, List.map_append, hmap]
  rfl

theorem titleCase_eq_intercalate (nsid : String) :
    titleCase nsid = ".".intercalate ((segments '.' nsid).map titleCase) := by
  apply String.toList_inj.mp
  rw [String.toList_intercalate, List.map_map]
  have hmap : (segments '.' nsid).map (String.toList ∘ titleCase) =
      (splitAtChar '.' nsid.toList).map titleSegment := by
    rw [segments, List.map_map]
    apply List.map_congr_left
    intro cs hcs
    rw [splitAtChar_eq_splitOn] at hcs
    have hdot : '.' ∉ (String.ofList cs).toList := by
      simpa using not_mem_of_mem_splitOn hcs
    simpa using toList_titleCase hdot
  rw [hmap, titleCase, titleChars, String.toList_ofList]
  rfl

theorem moduleName_eq_intercalate (nsid key : String) :
    moduleName nsid key =
      ".".intercalate ((segments '.' nsid).map titleCase ++ [capitalize key]) := by
  have hne : (segments '.' nsid).map titleCase ≠ [] := by
    simpa using segments_ne_nil '.' nsid
  rw [moduleName, titleCase_eq_intercalate, String.intercalate_append_of_ne_nil hne (by simp),
    String.intercalate_singleton]

end Names

namespace Reference

open Lexgen.Names

/-- The NSID of `r` is the start of that of `r'` in title case, and the key of `r` takes the place
of the segments that are left and the key of `r'`. -/
def Covers (r r' : Reference) : Prop :=
  let own := segments '.' r.nsid
  let other := segments '.' r'.nsid
  List.Forall₂ SameSegment own (other.take own.length) ∧
    capitalize r.key =
      ".".intercalate ((other.drop own.length).map titleCase ++ [capitalize r'.key])

/-- Two definitions that nothing but the case of letters, hyphens and dots in a key sets apart. -/
def LooksLike (r r' : Reference) : Prop := r.Covers r' ∨ r'.Covers r

instance (r r' : Reference) : Decidable (r.Covers r') := inferInstanceAs (Decidable (_ ∧ _))

instance (r r' : Reference) : Decidable (r.LooksLike r') := inferInstanceAs (Decidable (_ ∨ _))

variable {r r' : Reference}

theorem covers_iff (hr : Nsid.validate r.nsid = .ok ()) (hr' : Nsid.validate r'.nsid = .ok ()) :
    r.Covers r' ↔ ∃ further,
      (segments '.' r'.nsid).map (fun s => titleSegment s.toList) =
        (segments '.' r.nsid).map (fun s => titleSegment s.toList) ++ further ∧
      (capitalize r.key).toList = ['.'].intercalate (further ++ [(capitalize r'.key).toList]) := by
  have hother : ∀ s ∈ (segments '.' r'.nsid).drop (segments '.' r.nsid).length, '.' ∉ s.toList :=
    fun s hs => not_mem_of_mem_segments (List.mem_of_mem_drop hs)
  rw [exists_append_iff, List.length_map, ← List.map_take, ← List.map_drop,
    map_titleSegment_eq_iff (fun s => Nsid.isLabel_of_mem_segments hr)
      (fun s hs => Nsid.isLabel_of_mem_segments hr' (List.mem_of_mem_take hs)),
    ← toList_intercalate_titleCase hother, String.toList_inj]
  rfl

theorem moduleName_eq_iff (hr : Nsid.validate r.nsid = .ok ())
    (hr' : Nsid.validate r'.nsid = .ok ()) : r.moduleName = r'.moduleName ↔ r.LooksLike r' := by
  have hdots : ∀ (nsid : String), ∀ piece ∈ (segments '.' nsid).map fun s => titleSegment s.toList,
      '.' ∉ piece := by
    intro nsid piece hpiece
    obtain ⟨s, hs, rfl⟩ := List.mem_map.mp hpiece
    exact dot_not_mem_titleSegment (not_mem_of_mem_segments hs)
  rw [LooksLike, covers_iff hr hr', covers_iff hr' hr,
    ← intercalate_concat_eq_iff (hdots r.nsid) (hdots r'.nsid),
    ← toList_intercalate_titleCase fun s => not_mem_of_mem_segments,
    ← toList_intercalate_titleCase fun s => not_mem_of_mem_segments, String.toList_inj,
    ← moduleName_eq_intercalate, ← moduleName_eq_intercalate]
  rfl

theorem covers_iff_of_no_dot (hkey : '.' ∉ r.key.toList) :
    r.Covers r' ↔ AlikeNsids r.nsid r'.nsid ∧ capitalize r.key = capitalize r'.key := by
  constructor
  · rintro ⟨hsegments, hcapital⟩
    cases hdrop : (segments '.' r'.nsid).drop (segments '.' r.nsid).length with
    | nil =>
        rw [List.take_of_length_le (List.drop_eq_nil_iff.mp hdrop)] at hsegments
        rw [hdrop] at hcapital
        exact ⟨hsegments, by simpa using hcapital⟩
    | cons segment further =>
        rw [hdrop, List.map_cons, List.cons_append,
          String.intercalate_cons_of_ne_nil (by simp)] at hcapital
        have hdot : '.' ∉ (capitalize r.key).toList := by
          simpa [capitalize] using dot_not_mem_capitalizeChars hkey
        simp [hcapital] at hdot
  · rintro ⟨hsegments, hcapital⟩
    constructor
    · rw [hsegments.length_eq, List.take_length]
      exact hsegments
    · rw [hsegments.length_eq, List.drop_length]
      simpa using hcapital

/-- Without a dot in their keys, definitions look alike only if their NSIDs do and their keys differ
in the case of the first character at most. -/
theorem looksLike_iff_of_no_dot (hkey : '.' ∉ r.key.toList) (hkey' : '.' ∉ r'.key.toList) :
    r.LooksLike r' ↔ AlikeNsids r.nsid r'.nsid ∧ capitalize r.key = capitalize r'.key := by
  rw [LooksLike, covers_iff_of_no_dot hkey, covers_iff_of_no_dot hkey']
  constructor
  · rintro (halike | ⟨hnsids, hkeys⟩)
    · exact halike
    · exact ⟨hnsids.symm, hkeys.symm⟩
  · exact .inl

end Reference

end Lexgen
