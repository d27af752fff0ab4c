import Lexgen.Text.Split

namespace Lexgen.Text

theorem splitBy_eq_splitOnP (isMark : Char → Bool) (cs : List Char) :
    splitBy isMark cs = cs.splitOnP isMark := by
  induction cs with
  | nil => rfl
  | cons c cs ih =>
      rw [splitBy, List.splitOnP_cons_eq_if_modifyHead, ih]
      split
      · rfl
      · cases hpieces : cs.splitOnP isMark with
        | nil => exact absurd hpieces (List.splitOnP_ne_nil isMark cs)
        | cons piece pieces => rfl

theorem splitAtChar_eq_splitOn (mark : Char) (cs : List Char) :
    splitAtChar mark cs = cs.splitOn mark :=
  splitBy_eq_splitOnP (· == mark) cs

theorem flatten_splitOn (mark : Char) (cs : List Char) :
    (cs.splitOn mark).flatten = cs.filter (· ≠ mark) := by
  induction cs with
  | nil => rfl
  | cons c cs ih =>
      rw [List.splitOn_cons_eq_if_modifyHead]
      split
      · rename_i hc
        rw [List.flatten_cons, List.nil_append, ih, List.filter_cons_of_neg (by simpa using hc)]
      · rename_i hc
        rw [List.filter_cons_of_pos (by simpa using hc), ← ih]
        cases hpieces : cs.splitOn mark with
        | nil => exact absurd hpieces (List.splitOn_ne_nil mark cs)
        | cons piece pieces => rfl

theorem mem_of_mem_splitOn {mark c : Char} {cs piece : List Char}
    (hpiece : piece ∈ cs.splitOn mark) (hc : c ∈ piece) : c ∈ cs ∧ c ≠ mark := by
  have hmem : c ∈ (cs.splitOn mark).flatten := List.mem_flatten.mpr ⟨piece, hpiece, hc⟩
  rw [flatten_splitOn] at hmem
  simpa using List.mem_filter.mp hmem

theorem not_mem_of_mem_splitOn {mark : Char} {cs piece : List Char}
    (hpiece : piece ∈ cs.splitOn mark) : mark ∉ piece :=
  fun hmark => (mem_of_mem_splitOn hpiece hmark).2 rfl

theorem splitOn_append_flatten {mark : Char} {first : List Char} {pieces : List (List Char)}
    (hfirst : mark ∉ first) (hpieces : ∀ piece ∈ pieces, mark ∉ piece) :
    (first ++ (pieces.map (mark :: ·)).flatten).splitOn mark = first :: pieces := by
  induction pieces generalizing first with
  | nil => simpa using List.splitOn_eq_singleton hfirst
  | cons piece pieces ih =>
      rw [List.forall_mem_cons] at hpieces
      rw [List.map_cons, List.flatten_cons, List.cons_append,
        List.splitOn_append_cons_self_of_not_mem hfirst, ih hpieces.1 hpieces.2]

theorem eq_append_flatten {mark : Char} {cs first : List Char} {pieces : List (List Char)}
    (hsplit : cs.splitOn mark = first :: pieces) :
    cs = first ++ (pieces.map (mark :: ·)).flatten := by
  have hpieces : ∀ piece ∈ first :: pieces, mark ∉ piece :=
    fun piece hpiece => not_mem_of_mem_splitOn (hsplit ▸ hpiece)
  rw [List.forall_mem_cons] at hpieces
  calc
    cs = [mark].intercalate (cs.splitOn mark) := (List.intercalate_splitOn mark).symm
    _ = [mark].intercalate ((first ++ (pieces.map (mark :: ·)).flatten).splitOn mark) := by
      rw [hsplit, splitOn_append_flatten hpieces.1 hpieces.2]
    _ = first ++ (pieces.map (mark :: ·)).flatten := List.intercalate_splitOn mark

theorem not_mem_of_cutLast_eq_none {mark : Char} {cs : List Char}
    (hcut : cutLast mark cs = none) : mark ∉ cs := by
  fun_induction cutLast mark cs with
  | case1 => exact List.not_mem_nil
  | case2 => simp at hcut
  | case3 => simp at hcut
  | case4 c rest hrest hne ih => simp [ih hrest, Ne.symm hne]

theorem of_cutLast_eq_some {mark : Char} {cs before after : List Char}
    (hcut : cutLast mark cs = some (before, after)) :
    mark ∉ after ∧ cs = before ++ mark :: after := by
  fun_induction cutLast mark cs generalizing before with
  | case1 => simp at hcut
  | case2 c rest before' after' hrest ih =>
      obtain ⟨rfl, rfl⟩ := Prod.mk.inj (Option.some.inj hcut)
      obtain ⟨hmark, rfl⟩ := ih hrest
      exact ⟨hmark, rfl⟩
  | case3 rest hrest ih =>
      obtain ⟨rfl, rfl⟩ := Prod.mk.inj (Option.some.inj hcut)
      exact ⟨not_mem_of_cutLast_eq_none hrest, rfl⟩
  | case4 => simp at hcut

theorem segments_eq (mark : Char) (s : String) :
    segments mark s = (s.toList.splitOn mark).map String.ofList := by
  rw [segments, splitAtChar_eq_splitOn]

theorem segments_ne_nil (mark : Char) (s : String) : segments mark s ≠ [] := by
  simp [segments_eq]

theorem not_mem_of_mem_segments {mark : Char} {s piece : String}
    (hpiece : piece ∈ segments mark s) : mark ∉ piece.toList := by
  rw [segments_eq] at hpiece
  obtain ⟨cs, hcs, rfl⟩ := List.mem_map.mp hpiece
  rw [String.toList_ofList]
  exact not_mem_of_mem_splitOn hcs

theorem segments_of_not_mem {mark : Char} {s : String} (hmark : mark ∉ s.toList) :
    segments mark s = [s] := by
  rw [segments_eq, List.splitOn_eq_singleton hmark, List.map_singleton, String.ofList_toList]

theorem segments_append (mark : Char) (s t : String) :
    segments mark (s ++ String.singleton mark ++ t) = segments mark s ++ segments mark t := by
  have hchars : (s ++ String.singleton mark ++ t).toList = s.toList ++ mark :: t.toList := by simp
  rw [segments_eq, segments_eq, segments_eq, hchars, List.splitOn_append_cons_self,
    List.map_append]

theorem segments_intercalate {mark : Char} {pieces : List String}
    (hpieces : ∀ piece ∈ pieces, mark ∉ piece.toList) (hne : pieces ≠ []) :
    segments mark ((String.singleton mark).intercalate pieces) = pieces := by
  have hsplit : ([mark].intercalate (pieces.map String.toList)).splitOn mark =
      pieces.map String.toList :=
    List.splitOn_intercalate mark (by simpa using hpieces) (by simpa using hne)
  rw [segments_eq, String.toList_intercalate, String.toList_singleton, hsplit, List.map_map]
  simp [Function.comp_def]

theorem intercalate_segments (mark : Char) (s : String) :
    (String.singleton mark).intercalate (segments mark s) = s := by
  apply String.toList_inj.mp
  rw [String.toList_intercalate, segments_eq, List.map_map, String.toList_singleton]
  simp [Function.comp_def, List.intercalate_splitOn]

theorem segments_injective {mark : Char} {s t : String}
    (heq : segments mark s = segments mark t) : s = t := by
  rw [← intercalate_segments mark s, heq, intercalate_segments]

end Lexgen.Text
