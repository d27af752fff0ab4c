import Lexgen.Artifact
import Lexgen.Proofs.Names.WordStarts

/-!
When two documents have the same table. The name of a table is made of the words of an NSID, in
lower case and joined by one mark, so it does not tell whether two words met at a dot, at hyphens or
at a capital letter, nor which letters were capitals. Nothing else is lost.
-/

namespace Lexgen.Names

open Lexgen.Text

section Joined

theorem intercalate_append {mark : List Char} {xs ys : List (List Char)} (hxs : xs ≠ [])
    (hys : ys ≠ []) :
    mark.intercalate (xs ++ ys) = mark.intercalate xs ++ mark ++ mark.intercalate ys := by
  induction xs with
  | nil => exact absurd rfl hxs
  | cons x xs ih =>
      cases xs with
      | nil => simp [List.intercalate_cons_of_ne_nil hys]
      | cons x' xs =>
          have hne : x' :: xs ≠ [] := List.cons_ne_nil x' xs
          rw [List.cons_append,
            List.intercalate_cons_of_ne_nil (List.append_ne_nil_of_left_ne_nil hne ys), ih hne,
            List.intercalate_cons_of_ne_nil hne]
          simp only [List.append_assoc]

theorem intercalate_map_intercalate {mark : List Char} {groups : List (List (List Char))}
    (hgroups : ∀ group ∈ groups, group ≠ []) :
    mark.intercalate (groups.map mark.intercalate) = mark.intercalate groups.flatten := by
  induction groups with
  | nil => rfl
  | cons group groups ih =>
      rw [List.forall_mem_cons] at hgroups
      cases groups with
      | nil => simp
      | cons group' groups =>
          have hne : (group' :: groups).flatten ≠ [] := by
            rw [List.flatten_cons]
            exact List.append_ne_nil_of_left_ne_nil (hgroups.2 group' List.mem_cons_self) _
          rw [List.map_cons, List.intercalate_cons_of_ne_nil (by simp), ih hgroups.2]
          exact (intercalate_append hgroups.1 hne).symm

theorem words_eq_flatMap (cs : List Char) : words cs = (cs.splitOn '.').flatMap words := by
  have hjoined (first : List Char) (pieces : List (List Char)) :
      words (first ++ (pieces.map ('.' :: ·)).flatten) = (first :: pieces).flatMap words := by
    induction pieces generalizing first with
    | nil => simp
    | cons piece pieces ih =>
        rw [List.map_cons, List.flatten_cons, List.cons_append, words_append_cons (by decide), ih]
        rfl
  cases hsplit : cs.splitOn '.' with
  | nil => exact absurd hsplit (List.splitOn_ne_nil '.' cs)
  | cons first pieces => rw [← hjoined, ← eq_append_flatten hsplit]

end Joined

section Accepted

variable {nsid : String}

theorem isAscii_of_validate (haccepted : Nsid.validate nsid = .ok ()) :
    ∀ c ∈ nsid.toList, isAscii c = true := by
  intro c hc
  by_cases hdot : c = '.'
  · rw [hdot]
    decide
  · have hmem : c ∈ (nsid.toList.splitOn '.').flatten := by
      rw [flatten_splitOn]
      exact List.mem_filter.mpr ⟨hc, by simpa using hdot⟩
    obtain ⟨segment, hsegment, hc⟩ := List.mem_flatten.mp hmem
    exact isAscii_of_isInner (((Nsid.splitOn_of_validate haccepted).2 segment hsegment).2 c hc)

theorem smallWords_ne_nil_of_startsIn {cs : List Char} (hascii : ∀ c ∈ cs, isAscii c = true)
    (hstarts : Nsid.StartsIn Char.isAlphanum cs) : smallWords cs ≠ [] := by
  obtain ⟨c, hhead, hc⟩ := hstarts
  obtain ⟨rest, rfl⟩ := List.head?_eq_some_iff.mp hhead
  have hwords : (words (c :: rest)).flatMap wordLetters = lettersAfter [] (c :: rest) :=
    flatMap_words hascii rfl
  intro hnil
  rw [List.map_eq_nil_iff.mp hnil, lettersAfter, if_pos hc] at hwords
  simp at hwords

theorem smallWords_ne_nil_of_mem_splitOn (haccepted : Nsid.validate nsid = .ok ())
    {segment : List Char} (hsegment : segment ∈ nsid.toList.splitOn '.') :
    smallWords segment ≠ [] :=
  smallWords_ne_nil_of_startsIn
    (fun c hc => isAscii_of_validate haccepted c (mem_of_mem_splitOn hsegment hc).1)
    ((Nsid.areNsidPieces_of_validate haccepted).startsIn hsegment)

theorem smallWords_eq_flatMap (cs : List Char) :
    smallWords cs = ((cs.splitOn '.').map smallWords).flatten := by
  rw [smallWords, words_eq_flatMap, List.map_flatMap, List.flatMap_def]
  rfl

theorem toList_sourceName (haccepted : Nsid.validate nsid = .ok ()) :
    (sourceName nsid).toList = ['_'].intercalate (smallWords nsid.toList) := by
  have hgroups : ∀ group ∈ (nsid.toList.splitOn '.').map smallWords, group ≠ [] := by
    intro group hgroup
    obtain ⟨segment, hsegment, rfl⟩ := List.mem_map.mp hgroup
    exact smallWords_ne_nil_of_mem_splitOn haccepted hsegment
  have hsegments : ((segments '.' nsid).map snakeCase).map String.toList =
      ((nsid.toList.splitOn '.').map smallWords).map ['_'].intercalate := by
    rw [segments_eq, List.map_map, List.map_map, List.map_map]
    refine List.map_congr_left fun segment _ => ?_
    simp [snakeCase, snakeChars, smallWords]
  rw [sourceName, String.toList_intercalate, hsegments, smallWords_eq_flatMap]
  exact intercalate_map_intercalate hgroups

theorem smallWords_ne_nil_of_validate (haccepted : Nsid.validate nsid = .ok ()) :
    smallWords nsid.toList ≠ [] := by
  obtain ⟨segment, rest, hsplit⟩ :=
    List.exists_cons_of_ne_nil (List.splitOn_ne_nil '.' nsid.toList)
  rw [smallWords_eq_flatMap, hsplit, List.map_cons, List.flatten_cons]
  refine List.append_ne_nil_of_left_ne_nil ?_ _
  exact smallWords_ne_nil_of_mem_splitOn haccepted (hsplit ▸ List.mem_cons_self)

end Accepted

section Tables

variable {m n : String}

theorem sourceName_eq_iff_smallWords_eq (hm : Nsid.validate m = .ok ())
    (hn : Nsid.validate n = .ok ()) :
    sourceName m = sourceName n ↔ smallWords m.toList = smallWords n.toList := by
  have hread {nsid : String} (haccepted : Nsid.validate nsid = .ok ()) :
      (sourceName nsid).toList.splitOn '_' = smallWords nsid.toList := by
    rw [toList_sourceName haccepted]
    exact List.splitOn_intercalate '_'
      (fun w => underscore_not_mem_smallWords (isAscii_of_validate haccepted))
      (smallWords_ne_nil_of_validate haccepted)
  constructor
  · intro heq
    rw [← hread hm, heq, hread hn]
  · intro heq
    apply String.toList_inj.mp
    rw [toList_sourceName hm, heq, ← toList_sourceName hn]

/-- Without capitals and hyphens. -/
def IsPlain (nsid : String) : Prop := ∀ c ∈ nsid.toList, c.isUpper = false ∧ c ≠ '-'

theorem snakeCase_of_mem_segments (hm : Nsid.validate m = .ok ()) (hplain : IsPlain m)
    {segment : String} (hsegment : segment ∈ segments '.' m) : snakeCase segment = segment := by
  have hlabel := Nsid.isLabel_of_mem_segments hm hsegment
  have hsmall : ∀ c ∈ segment.toList, IsSmall c := by
    intro c hc
    have hascii := isAscii_of_isInner (hlabel.2 c hc)
    have hmem : c ∈ m.toList := by
      rw [segments_eq] at hsegment
      obtain ⟨cs, hcs, rfl⟩ := List.mem_map.mp hsegment
      rw [String.toList_ofList] at hc
      exact (mem_of_mem_splitOn hcs hc).1
    obtain ⟨hupper, hhyphen⟩ := hplain c hmem
    refine ⟨?_, (isUppercase_eq hascii).trans hupper, ?_⟩
    · rw [isAlphanumeric_eq hascii]
      simpa [Nsid.isInner, hhyphen] using hlabel.2 c hc
    · rw [lowerForm, if_pos hascii, toLower_of_not_isUpper (by simp [hupper])]
  have hword : snakeChars (['_'].intercalate [segment.toList]) =
      ['_'].intercalate [segment.toList] :=
    snakeChars_intercalate (by simpa using hlabel.1) (by simpa using hsmall)
  rw [List.intercalate_singleton] at hword
  rw [snakeCase, hword, String.ofList_toList]

theorem eq_of_isPlain (hm : Nsid.validate m = .ok ()) (hn : Nsid.validate n = .ok ())
    (hplain : IsPlain m) (hplain' : IsPlain n) (hsource : sourceName m = sourceName n) : m = n := by
  have hread {nsid : String} (haccepted : Nsid.validate nsid = .ok ()) (hplain : IsPlain nsid) :
      segments '_' (sourceName nsid) = segments '.' nsid := by
    have hwords : (segments '.' nsid).map snakeCase = segments '.' nsid :=
      (List.map_congr_left fun _ => snakeCase_of_mem_segments haccepted hplain).trans
        (List.map_id' _)
    rw [sourceName, hwords]
    refine segments_intercalate (fun segment hsegment hmark => ?_) (segments_ne_nil '.' nsid)
    exact absurd ((Nsid.isLabel_of_mem_segments haccepted hsegment).2 '_' hmark) (by decide)
  apply segments_injective
  rw [← hread hm hplain, hsource, hread hn hplain']

end Tables

/-- Two documents have the same table exactly when their NSIDs are spelled alike, and then their
records are bound to it both. NSIDs without capitals and hyphens are told apart. -/
theorem sourceName_eq_iff {m n : String} (hm : Nsid.validate m = .ok ())
    (hn : Nsid.validate n = .ok ()) :
    (sourceName m = sourceName n ↔ spelling m = spelling n) ∧
    (IsPlain m → IsPlain n → sourceName m = sourceName n → m = n) ∧
    ∀ (l l' : Lexicon) (runtimeModule runtimeModule' : String) (d d' : RecordDef),
      l.nsid = m → l'.nsid = n →
        ((l.recordFile runtimeModule d).1.source = (l'.recordFile runtimeModule' d').1.source ↔
          spelling m = spelling n) := by
  have hiff : sourceName m = sourceName n ↔ spelling m = spelling n :=
    (sourceName_eq_iff_smallWords_eq hm hn).trans
      (smallWords_eq_iff_spelling_eq (isAscii_of_validate hm) (isAscii_of_validate hn))
  refine ⟨hiff, eq_of_isPlain hm hn, ?_⟩
  rintro l l' runtimeModule runtimeModule' d d' rfl rfl
  exact hiff

/-- The same five words, cut differently into segments. -/
theorem sourceName_eq_iff_regrouped :
    Nsid.validate "net.my-host.listItem" = .ok () ∧ Nsid.validate "net.my.hostList.Item" = .ok () ∧
    spelling "net.my-host.listItem" = spelling "net.my.hostList.Item" ∧
    sourceName "net.my-host.listItem" = sourceName "net.my.hostList.Item" := by
  have hfacts : Nsid.validate "net.my-host.listItem" = .ok () ∧
      Nsid.validate "net.my.hostList.Item" = .ok () ∧
      spelling "net.my-host.listItem" = spelling "net.my.hostList.Item" := by
    decide +kernel
  obtain ⟨hm, hn, hspelling⟩ := hfacts
  exact ⟨hm, hn, hspelling, (sourceName_eq_iff hm hn).1.mpr hspelling⟩

/-- A capital and a dot make the same words of two NSIDs. -/
theorem fooBar_shares_table :
    Nsid.validate "com.example.fooBar" = .ok () ∧ Nsid.validate "com.example.foo.bar" = .ok () ∧
    "com.example.fooBar" ≠ "com.example.foo.bar" ∧
    sourceName "com.example.fooBar" = sourceName "com.example.foo.bar" := by
  decide +kernel

end Lexgen.Names
