import Mathlib.Data.String.Basic
import Lexgen.Schema.References

namespace Lexgen

namespace Schema

theorem mem_insertSorted {s t : String} {set : List String} :
    t ∈ insertSorted s set ↔ t = s ∨ t ∈ set := by
  fun_induction insertSorted s set with
  | case1 => simp
  | case2 => simp
  | case3 => simp
  | case4 u rest _ _ ih => simp only [List.mem_cons, ih, or_left_comm]

theorem pairwise_insertSorted (s : String) {set : List String} (hset : set.Pairwise (· < ·)) :
    (insertSorted s set).Pairwise (· < ·) := by
  fun_induction insertSorted s set with
  | case1 => exact List.pairwise_singleton _ _
  | case2 t rest hless =>
      refine List.pairwise_cons.mpr ⟨?_, hset⟩
      rintro u (_ | ⟨_, hu⟩)
      · exact hless
      · exact lt_trans hless (List.rel_of_pairwise_cons hset hu)
  | case3 => exact hset
  | case4 t rest hnotless hne ih =>
      refine List.pairwise_cons.mpr ⟨?_, ih hset.of_cons⟩
      intro u hu
      rcases mem_insertSorted.mp hu with rfl | hu
      · exact lt_of_le_of_ne (not_lt.mp hnotless) (Ne.symm hne)
      · exact List.rel_of_pairwise_cons hset hu

theorem mem_foldl_insertSorted {t : String} {values set : List String} :
    t ∈ values.foldl (fun set s => insertSorted s set) set ↔ t ∈ values ∨ t ∈ set := by
  induction values generalizing set with
  | nil => simp
  | cons s values ih => simp only [List.foldl_cons, ih, mem_insertSorted, List.mem_cons, or_assoc,
      or_left_comm]

@[simp] theorem mem_sortedSet {t : String} {values : List String} :
    t ∈ sortedSet values ↔ t ∈ values := by
  simp [sortedSet, mem_foldl_insertSorted]

theorem pairwise_foldl_insertSorted {values set : List String} (hset : set.Pairwise (· < ·)) :
    (values.foldl (fun set s => insertSorted s set) set).Pairwise (· < ·) := by
  induction values generalizing set with
  | nil => exact hset
  | cons s values ih => exact ih (pairwise_insertSorted s hset)

theorem pairwise_sortedSet (values : List String) : (sortedSet values).Pairwise (· < ·) :=
  pairwise_foldl_insertSorted List.Pairwise.nil

end Schema

variable {α : Type} {key k : String} {value v : α} {members : List (String × α)}

theorem map_fst_setMember (key : String) (value : α) (members : List (String × α)) :
    (setMember key value members).map Prod.fst =
      Schema.insertSorted key (members.map Prod.fst) := by
  induction members with
  | nil => rfl
  | cons member rest ih =>
      obtain ⟨k, v⟩ := member
      simp only [setMember, List.map_cons, Schema.insertSorted]
      split
      · rfl
      · split
        · simp_all
        · simp [ih]

theorem mem_setMember {member : String × α} (hmem : member ∈ setMember key value members) :
    member = (key, value) ∨ member ∈ members := by
  fun_induction setMember key value members with
  | case1 => simpa using hmem
  | case2 => simpa using hmem
  | case3 => exact (List.mem_cons.mp hmem).imp_right (List.mem_cons_of_mem _)
  | case4 k v rest _ _ ih =>
      rcases List.mem_cons.mp hmem with rfl | hmem
      · exact .inr List.mem_cons_self
      · exact (ih hmem).imp_right (List.mem_cons_of_mem _)

theorem findMember?_setMember :
    findMember? k (setMember key value members) =
      if k = key then some value else findMember? k members := by
  fun_induction setMember key value members with
  | case1 => simp [findMember?, eq_comm]
  | case2 => simp [findMember?, eq_comm]
  | case3 => simp +contextual [findMember?, eq_comm]
  | case4 k' v' rest _ hne ih =>
      by_cases hk : k' = k
      · simp [findMember?, hk, show k ≠ key from hk ▸ Ne.symm hne]
      · simp [findMember?, hk, ih]

theorem mem_of_findMember? (hfind : findMember? k members = some v) : (k, v) ∈ members := by
  fun_induction findMember? k members with
  | case1 => simp at hfind
  | case2 v' rest => simp_all
  | case3 k' v' rest _ ih => exact List.mem_cons_of_mem _ (ih hfind)

theorem findMember?_eq_some_iff (hkeys : (members.map Prod.fst).Pairwise (· < ·)) :
    findMember? k members = some v ↔ (k, v) ∈ members := by
  refine ⟨mem_of_findMember?, ?_⟩
  intro hmem
  induction members with
  | nil => simp at hmem
  | cons member rest ih =>
      obtain ⟨k', v'⟩ := member
      rcases List.mem_cons.mp hmem with heq | hmem
      · simp_all [findMember?]
      · have hless : k' < k :=
          List.rel_of_pairwise_cons hkeys (List.mem_map_of_mem hmem)
        rw [findMember?, if_neg hless.ne]
        exact ih hkeys.of_cons hmem

end Lexgen
