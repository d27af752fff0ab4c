import Lexgen.Proofs.Nsid.Grammar

namespace Lexgen.Nsid

open Lexgen.Text

/-- A text of letters, digits and hyphens, one at least. -/
def IsLabel (cs : List Char) : Prop := cs ≠ [] ∧ ∀ c ∈ cs, isInner c = true

theorem dot_not_mem_of_isLabel {cs : List Char} (hlabel : IsLabel cs) : '.' ∉ cs :=
  fun hmem => absurd (hlabel.2 '.' hmem) (by decide)

theorem IsSegment.isLabel {cs : List Char} (hsegment : IsSegment cs) : IsLabel cs :=
  ⟨List.ne_nil_of_length_pos hsegment.length_pos, fun c hc => isInner_iff.mpr (hsegment.chars c hc)⟩

theorem areNsidPieces_of_validate {nsid : String} (haccepted : validate nsid = .ok ()) :
    AreNsidPieces (nsid.toList.splitOn '.') := by
  rcases validate_cases nsid with ⟨-, hvalidate⟩ | ⟨-, hpieces, -⟩ | ⟨-, -, hvalidate⟩
  · exact absurd (haccepted.symm.trans hvalidate) nofun
  · exact hpieces
  · exact absurd (haccepted.symm.trans hvalidate) nofun

theorem AreNsidPieces.startsIn {pieces : List (List Char)} (hpieces : AreNsidPieces pieces)
    {piece : List Char} (hpiece : piece ∈ pieces) : StartsIn Char.isAlphanum piece := by
  have hletter : StartsIn Char.isAlpha piece → StartsIn Char.isAlphanum piece := by
    rintro ⟨c, hhead, hc⟩
    exact ⟨c, hhead, isLetterOrDigit_of_isLetter hc⟩
  obtain ⟨first, middle, name, rfl⟩ := exists_pieces_of_length hpieces.length_ge
  rw [List.mem_cons, List.mem_append, List.mem_singleton] at hpiece
  rcases hpiece with rfl | hmiddle | rfl
  · exact hletter (hpieces.first piece rfl).1
  · refine (hpieces.middle piece ?_).1
    rwa [List.tail_cons, List.dropLast_concat]
  · refine hletter (hpieces.name piece ?_).1
    rw [← List.cons_append, List.getLast?_concat]
    rfl

theorem splitOn_of_validate {nsid : String} (haccepted : validate nsid = .ok ()) :
    2 < (nsid.toList.splitOn '.').length ∧ ∀ cs ∈ nsid.toList.splitOn '.', IsLabel cs := by
  have hpieces := areNsidPieces_of_validate haccepted
  exact ⟨hpieces.length_ge, fun cs hcs => (hpieces.segments cs hcs).isLabel⟩

theorem isLabel_of_mem_segments {nsid segment : String} (haccepted : validate nsid = .ok ())
    (hsegment : segment ∈ segments '.' nsid) : IsLabel segment.toList := by
  rw [segments_eq] at hsegment
  obtain ⟨cs, hcs, rfl⟩ := List.mem_map.mp hsegment
  rw [String.toList_ofList]
  exact (splitOn_of_validate haccepted).2 cs hcs

theorem hash_not_mem_of_validate {nsid : String} (haccepted : validate nsid = .ok ()) :
    '#' ∉ nsid.toList := by
  intro hmem
  have hpieces : '#' ∈ (nsid.toList.splitOn '.').flatten := by
    rw [flatten_splitOn]
    exact List.mem_filter.mpr ⟨hmem, by decide⟩
  obtain ⟨cs, hcs, hhash⟩ := List.mem_flatten.mp hpieces
  exact absurd (((splitOn_of_validate haccepted).2 cs hcs).2 '#' hhash) (by decide)

end Lexgen.Nsid
