import Lexgen.Names

namespace Lexgen

namespace Text

variable {mark : Char} {cs before after : List Char}

theorem cutFirst_eq_none_iff : cutFirst mark cs = none ↔ mark ∉ cs := by
  fun_induction cutFirst mark cs with
  | case1 => simp
  | case2 => simp
  | case3 c rest hne ih => simp [ih, Ne.symm hne]

theorem cutFirst_eq_some_iff :
    cutFirst mark cs = some (before, after) ↔ mark ∉ before ∧ cs = before ++ mark :: after := by
  induction cs generalizing before with
  | nil => simp [cutFirst]
  | cons c rest ih =>
      rw [cutFirst]
      split
      · rename_i hmark
        subst hmark
        cases before with
        | nil => simp [eq_comm]
        | cons b before => simp +contextual [eq_comm]
      · rename_i hne
        cases before with
        | nil => simp [hne]
        | cons b before =>
            have hmap : (cutFirst mark rest).map (fun cut => (c :: cut.1, cut.2)) =
                some (b :: before, after) ↔ c = b ∧ cutFirst mark rest = some (before, after) := by
              cases cutFirst mark rest <;> grind
            rw [hmap, ih]
            grind

end Text

open Lexgen.Text

namespace Reference

theorem parse_qualified_of_nsid {r : Reference} (hnsid : '#' ∉ r.nsid.toList) (hkey : r.key ≠ "") :
    parse "" r.qualified = r := by
  have hcut : cutFirst '#' r.qualified.toList = some (r.nsid.toList, r.key.toList) := by
    rw [cutFirst_eq_some_iff]
    exact ⟨hnsid, by simp [qualified]⟩
  simp only [parse, hcut, String.ofList_toList]
  obtain ⟨nsid, key⟩ := r
  congr 1
  · by_cases hempty : nsid = "" <;> simp [hempty]
  · simp [hkey]

theorem parse_key_ne_empty (enclosing reference : String) :
    (parse enclosing reference).key ≠ "" := by
  rw [parse]
  split
  · simp [mainKey]
  · rename_i nsid key _
    by_cases hempty : key = [] <;> simp [hempty, mainKey]

theorem not_mem_nsid_parse {enclosing : String} (henclosing : '#' ∉ enclosing.toList)
    (reference : String) : '#' ∉ (parse enclosing reference).nsid.toList := by
  rw [parse]
  split
  · rename_i hcut
    exact cutFirst_eq_none_iff.mp hcut
  · rename_i hcut
    split
    · exact henclosing
    · rw [String.toList_ofList]
      exact (cutFirst_eq_some_iff.mp hcut).1

theorem parse_qualified {enclosing : String} (henclosing : '#' ∉ enclosing.toList)
    (reference : String) :
    parse "" (parse enclosing reference).qualified = parse enclosing reference :=
  parse_qualified_of_nsid (not_mem_nsid_parse henclosing reference)
    (parse_key_ne_empty enclosing reference)

end Reference

end Lexgen
