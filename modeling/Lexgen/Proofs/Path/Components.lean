import Mathlib.Data.List.Induction
import Lexgen.Path
import Lexgen.Proofs.Text.Segments

namespace Lexgen.Path

open Lexgen.Text

/-- A text that is a component by itself, neither empty nor with a slash nor one of the dots. -/
structure IsName (name : String) : Prop where
  ne_empty : name ≠ ""
  ne_dot : name ≠ "."
  ne_dots : name ≠ ".."
  no_slash : '/' ∉ name.toList

theorem IsName.innerComponent? {name : String} (hname : IsName name) :
    innerComponent? name = some (.name name) := by
  rw [Path.innerComponent?, if_neg (by simp [hname.ne_empty, hname.ne_dot]), if_neg hname.ne_dots]

theorem IsName.pieces {name : String} (hname : IsName name) : (Path.mk name).pieces = [name] :=
  segments_of_not_mem hname.no_slash

theorem IsName.isAbsolute {name : String} (hname : IsName name) :
    (Path.mk name).isAbsolute = false := by
  rw [Path.isAbsolute, beq_eq_false_iff_ne]
  exact fun hhead => hname.no_slash (List.mem_of_head? hhead)

/-- The components that the first piece of a path stands for. -/
def lead (p : Path) (first : String) : List Component :=
  if p.isAbsolute then [.root] else if first = "." then [.here] else (innerComponent? first).toList

theorem components_of_pieces {p : Path} {first : String} {rest : List String}
    (hpieces : p.pieces = first :: rest) :
    p.components = p.lead first ++ rest.filterMap Path.innerComponent? := by
  simp only [components, hpieces, lead]
  split_ifs <;> rfl

theorem IsName.components {name : String} (hname : IsName name) :
    (Path.mk name).components = [.name name] := by
  rw [components_of_pieces hname.pieces, lead, hname.isAbsolute, if_neg Bool.false_ne_true,
    if_neg hname.ne_dot, hname.innerComponent?]
  rfl

/-- The pieces of a path that stay when another is joined to it: a slash at the end has no piece
after it then. -/
def stem (p : Path) : List String :=
  if p.text = "" ∨ p.text.toList.getLast? = some '/' then p.pieces.dropLast else p.pieces

theorem pieces_of_text_eq_empty {p : Path} (hempty : p.text = "") : p.pieces = [""] := by
  rw [pieces, hempty]
  rfl

theorem exists_text_of_getLast? {p : Path} (hslash : p.text.toList.getLast? = some '/') :
    ∃ s : String, p.text = s ++ "/" := by
  obtain ⟨cs, hcs⟩ := List.getLast?_eq_some_iff.mp hslash
  refine ⟨String.ofList cs, String.toList_inj.mp ?_⟩
  rw [hcs, String.toList_append, String.toList_ofList]
  rfl

theorem pieces_of_trailing_slash {p : Path} {s : String} (htext : p.text = s ++ "/") :
    p.pieces = segments '/' s ++ [""] := by
  have happend := segments_append '/' s ""
  rw [String.append_empty] at happend
  rw [pieces, htext]
  exact happend

theorem pieces_join (p : Path) {q : Path} (hrelative : q.isAbsolute = false) :
    (p.join q).pieces = p.stem ++ q.pieces := by
  rw [join, hrelative, if_neg Bool.false_ne_true, stem]
  split_ifs with hends
  · rcases hends with hempty | hslash
    · rw [pieces_of_text_eq_empty hempty, pieces, hempty, String.empty_append]
      rfl
    · obtain ⟨s, htext⟩ := exists_text_of_getLast? hslash
      rw [pieces_of_trailing_slash htext, List.dropLast_concat, pieces, htext]
      exact segments_append '/' s q.text
  · exact segments_append '/' p.text q.text

theorem isAbsolute_join (p : Path) {q : Path} (hrelative : q.isAbsolute = false) :
    (p.join q).isAbsolute = p.isAbsolute := by
  rw [join, hrelative, if_neg Bool.false_ne_true]
  by_cases hempty : p.text = ""
  · simpa [hempty, isAbsolute] using hrelative
  · obtain ⟨c, cs, hcs⟩ := List.exists_cons_of_ne_nil (mt String.toList_eq_nil_iff.mp hempty)
    split_ifs <;> simp [isAbsolute, hcs]

theorem exists_stem {p : Path} (hne : p.text ≠ "") :
    ∃ first rest rest', p.pieces = first :: rest ∧ p.stem = first :: rest' ∧
      rest'.filterMap Path.innerComponent? = rest.filterMap Path.innerComponent? := by
  rw [stem]
  by_cases hslash : p.text.toList.getLast? = some '/'
  · obtain ⟨s, htext⟩ := exists_text_of_getLast? hslash
    obtain ⟨first, rest, hsegments⟩ := List.exists_cons_of_ne_nil (segments_ne_nil '/' s)
    refine ⟨first, rest ++ [""], rest, ?_, ?_, ?_⟩
    · rw [pieces_of_trailing_slash htext, hsegments, List.cons_append]
    · rw [if_pos (.inr hslash), pieces_of_trailing_slash htext, List.dropLast_concat, hsegments]
    · rw [List.filterMap_append]
      simp [Path.innerComponent?]
  · obtain ⟨first, rest, hsegments⟩ := List.exists_cons_of_ne_nil (segments_ne_nil '/' p.text)
    refine ⟨first, rest, rest, hsegments, ?_, rfl⟩
    rw [if_neg (by simp [hne, hslash])]
    exact hsegments

theorem filterMap_pieces {q : Path} (hnames : ∀ c ∈ q.components, ∃ name, c = .name name) :
    q.isAbsolute = false ∧ q.pieces.filterMap Path.innerComponent? = q.components := by
  obtain ⟨first, rest, hpieces⟩ := List.exists_cons_of_ne_nil (segments_ne_nil '/' q.text)
  have hcomponents := components_of_pieces hpieces
  rw [hcomponents] at hnames ⊢
  rw [List.forall_mem_append, lead] at hnames
  rw [show q.pieces = first :: rest from hpieces, lead]
  by_cases habsolute : q.isAbsolute = true
  · simp [habsolute] at hnames
  · by_cases hfirst : first = "."
    · simp [habsolute, hfirst] at hnames
    · rw [if_neg habsolute, if_neg hfirst, List.filterMap_cons]
      refine ⟨Bool.eq_false_iff.mpr habsolute, ?_⟩
      cases Path.innerComponent? first <;> rfl

theorem components_join (p : Path) {q : Path}
    (hnames : ∀ c ∈ q.components, ∃ name, c = .name name) :
    (p.join q).components = p.components ++ q.components := by
  obtain ⟨hrelative, hq⟩ := filterMap_pieces hnames
  have hpieces := pieces_join p hrelative
  by_cases hempty : p.text = ""
  · have hp : p.components = [] := by
      rw [components_of_pieces (pieces_of_text_eq_empty hempty)]
      simp [lead, isAbsolute, hempty, Path.innerComponent?]
    have hjoin : p.join q = q := by
      simp [join, hrelative, hempty]
    rw [hjoin, hp, List.nil_append]
  · obtain ⟨first, rest, rest', hp, hstem, hrest⟩ := exists_stem hempty
    rw [hstem, List.cons_append] at hpieces
    rw [components_of_pieces hp, components_of_pieces hpieces, lead, lead,
      isAbsolute_join p hrelative, List.filterMap_append, hrest, hq, List.append_assoc]

theorem ofNames_concat (names : List String) (name : String) :
    ofNames (names ++ [name]) = (ofNames names).join ⟨name⟩ := by
  simp [ofNames]

theorem components_ofNames {names : List String} (hnames : ∀ name ∈ names, IsName name) :
    (ofNames names).components = names.map .name := by
  induction names using List.reverseRecOn with
  | nil => rfl
  | append_singleton names name ih =>
      rw [List.forall_mem_append, List.forall_mem_singleton] at hnames
      have hname := hnames.2.components
      rw [ofNames_concat, components_join _ (by simp [hname]), hname, ih hnames.1, List.map_append]
      rfl

theorem stem_of_pieces {p : Path} {front : List String} {last : String}
    (hpieces : p.pieces = front ++ [last]) (hlast : last ≠ "") : p.stem = p.pieces := by
  have hgetLast : p.pieces.getLast? = some last := by simp [hpieces]
  rw [stem, if_neg]
  rintro (hempty | hslash)
  · rw [pieces_of_text_eq_empty hempty] at hgetLast
    exact hlast (by simpa using hgetLast.symm)
  · obtain ⟨s, htext⟩ := exists_text_of_getLast? hslash
    rw [pieces_of_trailing_slash htext] at hgetLast
    exact hlast (by simpa using hgetLast.symm)

theorem isAbsolute_ofNames {names : List String} (hnames : ∀ name ∈ names, IsName name) :
    (ofNames names).isAbsolute = false :=
  (filterMap_pieces (by simp [components_ofNames hnames])).1

theorem pieces_ofNames {names : List String} (hnames : ∀ name ∈ names, IsName name)
    (hne : names ≠ []) : (ofNames names).pieces = names := by
  induction names using List.reverseRecOn with
  | nil => exact absurd rfl hne
  | append_singleton names name ih =>
      rw [List.forall_mem_append, List.forall_mem_singleton] at hnames
      have hstem : (ofNames names).stem = names := by
        by_cases hnil : names = []
        · rw [hnil]
          rfl
        · have hpieces := ih hnames.1 hnil
          have hlast : IsName (names.getLast hnil) := hnames.1 _ (List.getLast_mem hnil)
          have hsplit := hpieces.trans (List.dropLast_concat_getLast hnil).symm
          rw [stem_of_pieces hsplit hlast.ne_empty, hpieces]
      rw [ofNames_concat, pieces_join _ hnames.2.isAbsolute, hstem, hnames.2.pieces]

end Lexgen.Path
