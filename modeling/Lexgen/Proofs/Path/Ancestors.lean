import Lexgen.Proofs.Path.Components

namespace Lexgen.Path

open Lexgen.Text

theorem innerComponent?_isNone_iff {piece : String} :
    (innerComponent? piece).isNone = true ↔ piece = "" ∨ piece = "." := by
  rw [innerComponent?]
  split_ifs <;> simp_all

/-- Pieces without those at the end that lead nowhere. The first one stays. -/
def trim (pieces : List String) : List String := (dropIdle pieces.reverse).reverse

/-- Pieces that end in one that leads somewhere, or have one only. -/
inductive Trimmed : List String → Prop
  | single (first : String) : Trimmed [first]
  | more {front : List String} {last : String} :
      front ≠ [] → last ≠ "" → last ≠ "." → Trimmed (front ++ [last])

theorem dropIdle_spec {pieces : List String} (hne : pieces ≠ []) :
    ∃ idle, pieces = idle ++ dropIdle pieces ∧ (∀ piece ∈ idle, piece = "" ∨ piece = ".") ∧
      Trimmed (dropIdle pieces).reverse := by
  fun_induction dropIdle pieces with
  | case1 => exact absurd rfl hne
  | case2 first => exact ⟨[], rfl, by simp, .single first⟩
  | case3 piece rest hrest hidle ih =>
      obtain ⟨idle, hsplit, hall, htrimmed⟩ := ih hrest
      refine ⟨piece :: idle, by rw [List.cons_append, ← hsplit], ?_, htrimmed⟩
      rw [List.forall_mem_cons]
      exact ⟨innerComponent?_isNone_iff.mp hidle, hall⟩
  | case4 piece rest hrest hidle =>
      rw [innerComponent?_isNone_iff, not_or] at hidle
      refine ⟨[], rfl, by simp, ?_⟩
      rw [List.reverse_cons]
      exact .more (by simpa using hrest) hidle.1 hidle.2

theorem trim_spec {pieces : List String} (hne : pieces ≠ []) :
    ∃ idle, pieces = trim pieces ++ idle ∧ (∀ piece ∈ idle, piece = "" ∨ piece = ".") ∧
      Trimmed (trim pieces) := by
  obtain ⟨idle, hsplit, hidle, htrimmed⟩ := dropIdle_spec (mt List.reverse_eq_nil_iff.mp hne)
  refine ⟨idle.reverse, ?_, by simpa using hidle, htrimmed⟩
  rw [trim, ← List.reverse_append, ← hsplit, List.reverse_reverse]

theorem trimmed_trim {pieces : List String} (hne : pieces ≠ []) : Trimmed (trim pieces) := by
  obtain ⟨_, -, -, htrimmed⟩ := trim_spec hne
  exact htrimmed

theorem mem_of_mem_trim {pieces : List String} {piece : String} (hpiece : piece ∈ trim pieces) :
    piece ∈ pieces := by
  have hne : pieces ≠ [] := by
    rintro rfl
    simp [trim, dropIdle] at hpiece
  obtain ⟨idle, hsplit, -, -⟩ := trim_spec hne
  rw [hsplit]
  exact List.mem_append_left idle hpiece

theorem Trimmed.ne_nil {pieces : List String} (htrimmed : Trimmed pieces) : pieces ≠ [] := by
  cases htrimmed <;> simp

theorem dropIdle_cons {last : String} {rest : List String} (hlast : last ≠ "")
    (hdot : rest = [] ∨ last ≠ ".") : dropIdle (last :: rest) = last :: rest := by
  cases rest with
  | nil => rfl
  | cons piece rest =>
      rw [dropIdle, if_neg]
      · rw [innerComponent?_isNone_iff]
        simpa [hlast] using hdot
      · simp

/-- The path that is written with given pieces. -/
def ofPieces (pieces : List String) : Path :=
  if pieces = [""] then ⟨"/"⟩ else ⟨"/".intercalate pieces⟩

theorem no_slash_of_mem_pieces {p : Path} {piece : String} (hpiece : piece ∈ p.pieces) :
    '/' ∉ piece.toList :=
  not_mem_of_mem_segments hpiece

theorem text_eq_intercalate (p : Path) : p.text = "/".intercalate p.pieces :=
  (intercalate_segments '/' p.text).symm

theorem pieces_ofPieces {pieces : List String} (hslash : ∀ piece ∈ pieces, '/' ∉ piece.toList)
    (hne : pieces ≠ []) (hroot : pieces ≠ [""]) : (ofPieces pieces).pieces = pieces := by
  rw [ofPieces, if_neg hroot]
  exact segments_intercalate hslash hne

/-- The parent of a path with the pieces `front` before its last one. -/
def parentOf (front : List String) : Path := if front = [] then ⟨""⟩ else ofPieces (trim front)

theorem parent?_of_pieces {p : Path} {front : List String} {last : String}
    (hpieces : p.pieces = front ++ [last]) (hlast : last ≠ "") (hdot : front = [] ∨ last ≠ ".") :
    p.parent? = some (parentOf front) := by
  have hidle : dropIdle p.pieces.reverse = last :: front.reverse := by
    rw [hpieces, List.reverse_append, List.reverse_singleton, List.singleton_append]
    exact dropIdle_cons hlast (by simpa using hdot)
  rw [parent?, hidle, parentOf]
  by_cases hfront : front = []
  · simp [hfront, hlast]
  · obtain ⟨piece, rest, hrest⟩ := List.exists_cons_of_ne_nil (mt List.reverse_eq_nil_iff.mp hfront)
    rw [if_neg hfront, ofPieces, trim, hrest]
    by_cases hroot : dropIdle (piece :: rest) = [""]
    · simp [hroot]
    · have hroot' : (dropIdle (piece :: rest)).reverse ≠ [""] := by
        simpa [List.reverse_eq_iff] using hroot
      rw [if_neg hroot']
      dsimp only
      split
      · rename_i heq
        exact absurd heq hroot
      · rfl

theorem length_intercalate_le (s : String) (xs ys : List String) :
    (s.intercalate xs).length ≤ (s.intercalate (xs ++ ys)).length := by
  by_cases hxs : xs = []
  · simp [hxs]
  · by_cases hys : ys = []
    · simp [hys]
    · rw [String.intercalate_append_of_ne_nil hxs hys]
      simp only [String.length_append]
      omega

theorem length_parentOf_lt {p : Path} {front : List String} {last : String}
    (hpieces : p.pieces = front ++ [last]) (hlast : last ≠ "") :
    (parentOf front).text.length < p.text.length := by
  have hpositive : 0 < last.length := by
    rw [Nat.pos_iff_ne_zero]
    exact fun hzero => hlast (String.length_eq_zero_iff.mp hzero)
  rw [text_eq_intercalate p, hpieces, parentOf]
  by_cases hfront : front = []
  · simpa [hfront] using hpositive
  · obtain ⟨idle, hsplit, -, -⟩ := trim_spec hfront
    have hshorter := length_intercalate_le "/" (trim front) idle
    rw [← hsplit] at hshorter
    have hslash : ("/" : String).length = 1 := rfl
    rw [if_neg hfront, String.intercalate_append_of_ne_nil hfront (by simp),
      String.intercalate_singleton, String.length_append, String.length_append, ofPieces]
    split_ifs <;> simp only <;> omega

theorem isAbsolute_of_pieces {p : Path} {first : String} {rest : List String}
    (hpieces : p.pieces = first :: rest) :
    p.isAbsolute = true ↔ first = "" ∧ rest ≠ [] := by
  have hslash : '/' ∉ first.toList := no_slash_of_mem_pieces (hpieces ▸ List.mem_cons_self)
  have htext := text_eq_intercalate p
  rw [hpieces] at htext
  rw [isAbsolute, beq_iff_eq, htext]
  cases hchars : first.toList with
  | nil =>
      obtain rfl : first = "" := String.toList_eq_nil_iff.mp hchars
      by_cases hrest : rest = []
      · simp [hrest]
      · simp [String.intercalate_cons_of_ne_nil hrest, hrest]
  | cons c cs =>
      have hfirst : first ≠ "" := by
        rintro rfl
        simp at hchars
      rw [hchars, List.mem_cons, not_or] at hslash
      have hc : c ≠ '/' := fun heq => hslash.1 heq.symm
      by_cases hrest : rest = []
      · simp [hrest, hchars, hc]
      · simp [String.intercalate_cons_of_ne_nil hrest, hchars, hc, hfirst]

theorem isAbsolute_ofPieces {first : String} {rest : List String}
    (hslash : ∀ piece ∈ first :: rest, '/' ∉ piece.toList) :
    (ofPieces (first :: rest)).isAbsolute = true ↔ first = "" := by
  by_cases hroot : first :: rest = [""]
  · have hfirst : first = "" := (List.cons.inj hroot).1
    rw [ofPieces, if_pos hroot]
    simp [isAbsolute, hfirst]
  · rw [isAbsolute_of_pieces (pieces_ofPieces hslash (by simp) hroot)]
    constructor
    · exact And.left
    · rintro rfl
      exact ⟨rfl, by simpa using hroot⟩

theorem isAbsolute_parentOf {p : Path} {front : List String} {last : String}
    (hpieces : p.pieces = front ++ [last]) : (parentOf front).isAbsolute = p.isAbsolute := by
  rw [Bool.eq_iff_iff, parentOf]
  cases front with
  | nil =>
      rw [isAbsolute_of_pieces hpieces]
      simp [isAbsolute]
  | cons first rest =>
      obtain ⟨idle, hsplit, -, htrimmed⟩ := trim_spec (List.cons_ne_nil first rest)
      obtain ⟨first', rest', htrim⟩ := List.exists_cons_of_ne_nil htrimmed.ne_nil
      have hfirst : first' = first := by
        rw [htrim, List.cons_append] at hsplit
        exact (List.cons.inj hsplit).1.symm
      have hslash : ∀ piece ∈ first' :: rest', '/' ∉ piece.toList := fun piece hpiece =>
        no_slash_of_mem_pieces
          (hpieces ▸ List.mem_append_left _ (mem_of_mem_trim (htrim ▸ hpiece)))
      rw [if_neg (List.cons_ne_nil first rest), htrim, isAbsolute_ofPieces hslash, hfirst,
        isAbsolute_of_pieces hpieces]
      simp

end Lexgen.Path
