import Lexgen.Text.Pattern

namespace Lexgen.Text.Pattern

/-- The texts that a pattern describes. -/
inductive Matches : Pattern → List Char → Prop where
  | nothing : Matches .nothing []
  | one {accepts : Char → Bool} {c : Char} : accepts c = true → Matches (.one accepts) [c]
  | seq {p q : Pattern} {xs ys : List Char} :
      Matches p xs → Matches q ys → Matches (.seq p q) (xs ++ ys)
  | left {p q : Pattern} {xs : List Char} : Matches p xs → Matches (.either p q) xs
  | right {p q : Pattern} {xs : List Char} : Matches q xs → Matches (.either p q) xs
  | manyNone {p : Pattern} : Matches (.many p) []
  | manyMore {p : Pattern} {xs ys : List Char} :
      Matches p xs → Matches (.many p) ys → Matches (.many p) (xs ++ ys)

variable {p q : Pattern} {c : Char} {cs : List Char}

@[simp] theorem not_matches_never : ¬ Matches .never cs := nofun

@[simp] theorem matches_nothing_iff : Matches .nothing cs ↔ cs = [] := by
  constructor
  · rintro ⟨⟩
    rfl
  · rintro rfl
    exact .nothing

@[simp] theorem matches_one_iff {accepts : Char → Bool} :
    Matches (.one accepts) cs ↔ ∃ c, accepts c = true ∧ cs = [c] := by
  constructor
  · rintro ⟨⟩
    exact ⟨_, ‹_›, rfl⟩
  · rintro ⟨c, haccepts, rfl⟩
    exact .one haccepts

theorem matches_seq_iff :
    Matches (.seq p q) cs ↔ ∃ xs ys, Matches p xs ∧ Matches q ys ∧ cs = xs ++ ys := by
  constructor
  · rintro ⟨⟩
    exact ⟨_, _, ‹_›, ‹_›, rfl⟩
  · rintro ⟨xs, ys, hxs, hys, rfl⟩
    exact .seq hxs hys

@[simp] theorem matches_either_iff :
    Matches (.either p q) cs ↔ Matches p cs ∨ Matches q cs := by
  constructor
  · rintro (_ | _ | _ | hleft | hright)
    · exact .inl hleft
    · exact .inr hright
  · rintro (hleft | hright)
    · exact .left hleft
    · exact .right hright

theorem matches_seq_cons_iff :
    Matches (.seq p q) (c :: cs) ↔
      (Matches p [] ∧ Matches q (c :: cs)) ∨
        ∃ xs ys, Matches p (c :: xs) ∧ Matches q ys ∧ cs = xs ++ ys := by
  rw [matches_seq_iff]
  constructor
  · rintro ⟨xs, ys, hxs, hys, hsplit⟩
    cases xs with
    | nil =>
        rw [List.nil_append] at hsplit
        exact .inl ⟨hxs, hsplit ▸ hys⟩
    | cons x xs =>
        obtain ⟨rfl, rfl⟩ := List.cons.inj hsplit
        exact .inr ⟨xs, ys, hxs, hys, rfl⟩
  · rintro (⟨hempty, hrest⟩ | ⟨xs, ys, hxs, hys, rfl⟩)
    · exact ⟨[], c :: cs, hempty, hrest, rfl⟩
    · exact ⟨c :: xs, ys, hxs, hys, rfl⟩

theorem matches_many_cons_iff :
    Matches (.many p) (c :: cs) ↔
      ∃ xs ys, Matches p (c :: xs) ∧ Matches (.many p) ys ∧ cs = xs ++ ys := by
  constructor
  · intro hmany
    -- The pattern stays the same along the repetitions, so the induction is on the match.
    generalize hpattern : Pattern.many p = r at hmany
    generalize htext : c :: cs = text at hmany
    induction hmany with
    | @manyMore p' xs ys hxs hys _ ih =>
        obtain rfl := Pattern.many.inj hpattern
        cases xs with
        | nil => exact ih rfl htext
        | cons x xs =>
            obtain ⟨rfl, rfl⟩ := List.cons.inj htext
            exact ⟨xs, ys, hxs, hys, rfl⟩
    | manyNone => exact absurd htext (List.cons_ne_nil c cs)
    | _ => exact Pattern.noConfusion hpattern
  · rintro ⟨xs, ys, hxs, hys, rfl⟩
    exact .manyMore hxs hys

theorem matches_andThen_iff : Matches (p.andThen q) cs ↔ Matches (.seq p q) cs := by
  fun_cases andThen p q with
  | case1 => simp [matches_seq_iff]
  | case2 => simp [matches_seq_iff]
  | case3 => rfl

theorem matches_orElse_iff : Matches (p.orElse q) cs ↔ Matches p cs ∨ Matches q cs := by
  fun_cases orElse p q with
  | case1 => simp
  | case2 => simp
  | case3 => exact matches_either_iff

theorem matchesEmpty_iff : p.matchesEmpty = true ↔ Matches p [] := by
  induction p with
  | never => simp [matchesEmpty]
  | nothing => simp [matchesEmpty]
  | one accepts => simp [matchesEmpty]
  | seq p q ihp ihq => simp [matchesEmpty, matches_seq_iff, ihp, ihq]
  | either p q ihp ihq => simp [matchesEmpty, ihp, ihq]
  | many p _ => exact iff_of_true rfl .manyNone

theorem matches_derivative_iff : Matches (p.derivative c) cs ↔ Matches p (c :: cs) := by
  induction p generalizing cs with
  | never => simp [derivative]
  | nothing => simp [derivative]
  | one accepts =>
      simp only [derivative, matches_one_iff, List.cons.injEq]
      split
      · grind [matches_nothing_iff]
      · grind [not_matches_never]
  | seq p q ihp ihq =>
      have hfirst : Matches ((p.derivative c).andThen q) cs ↔
          ∃ xs ys, Matches p (c :: xs) ∧ Matches q ys ∧ cs = xs ++ ys := by
        simp only [matches_andThen_iff, matches_seq_iff, ihp]
      rw [derivative, matches_seq_cons_iff, ← matchesEmpty_iff, ← hfirst, ← ihq]
      split
      · rename_i hempty
        rw [matches_orElse_iff, or_comm]
        simp [hempty]
      · rename_i hempty
        simp [hempty]
  | either p q ihp ihq =>
      rw [derivative, matches_orElse_iff, matches_either_iff, ihp, ihq]
  | many p ih =>
      rw [derivative, matches_andThen_iff, matches_many_cons_iff]
      simp only [matches_seq_iff, ih]

/-- Matching by derivatives accepts the texts that the pattern describes. -/
theorem matchesAll_iff : p.matchesAll cs = true ↔ Matches p cs := by
  induction cs generalizing p with
  | nil => exact matchesEmpty_iff
  | cons c cs ih => exact ih.trans matches_derivative_iff

theorem matches_one_seq_iff {accepts : Char → Bool} :
    Matches (.seq (.one accepts) q) cs ↔
      ∃ c rest, cs = c :: rest ∧ accepts c = true ∧ Matches q rest := by
  rw [matches_seq_iff]
  constructor
  · rintro ⟨xs, rest, hfirst, hrest, rfl⟩
    obtain ⟨c, haccepts, rfl⟩ := matches_one_iff.mp hfirst
    exact ⟨c, rest, rfl, haccepts, hrest⟩
  · rintro ⟨c, rest, rfl, haccepts, hrest⟩
    exact ⟨[c], rest, .one haccepts, hrest, rfl⟩

theorem matches_times_one_iff {accepts : Char → Bool} {n : Nat} :
    Matches (.times n (.one accepts)) cs ↔ cs.length = n ∧ ∀ c ∈ cs, accepts c = true := by
  induction n generalizing cs with
  | zero =>
      rw [times, matches_nothing_iff, List.length_eq_zero_iff]
      constructor
      · rintro rfl
        simp
      · exact And.left
  | succ n ih =>
      rw [times, matches_one_seq_iff]
      constructor
      · rintro ⟨c, rest, rfl, haccepts, hrest⟩
        obtain ⟨hlength, hall⟩ := ih.mp hrest
        exact ⟨by simp [hlength], by simpa [haccepts] using hall⟩
      · rintro ⟨hlength, hall⟩
        obtain ⟨c, rest, rfl⟩ := List.exists_cons_of_length_eq_add_one hlength
        rw [List.forall_mem_cons] at hall
        exact ⟨c, rest, rfl, hall.1, ih.mpr ⟨by simpa using hlength, hall.2⟩⟩

theorem matches_upTo_one_iff {accepts : Char → Bool} {n : Nat} :
    Matches (.upTo n (.one accepts)) cs ↔ cs.length ≤ n ∧ ∀ c ∈ cs, accepts c = true := by
  induction n generalizing cs with
  | zero =>
      rw [upTo, matches_nothing_iff, Nat.le_zero, List.length_eq_zero_iff]
      constructor
      · rintro rfl
        simp
      · exact And.left
  | succ n ih =>
      rw [upTo, optional, matches_either_iff, matches_nothing_iff, matches_one_seq_iff]
      constructor
      · rintro (rfl | ⟨c, rest, rfl, haccepts, hrest⟩)
        · simp
        · obtain ⟨hlength, hall⟩ := ih.mp hrest
          exact ⟨by simpa using hlength, by simpa [haccepts] using hall⟩
      · rintro ⟨hlength, hall⟩
        cases cs with
        | nil => exact .inl rfl
        | cons c rest =>
            rw [List.forall_mem_cons] at hall
            exact .inr ⟨c, rest, rfl, hall.1, ih.mpr ⟨by simpa using hlength, hall.2⟩⟩

theorem matches_many_iff :
    Matches (.many p) cs ↔ ∃ parts : List (List Char), (∀ part ∈ parts, Matches p part) ∧
      parts.flatten = cs := by
  constructor
  · intro hmany
    generalize hpattern : Pattern.many p = r at hmany
    induction hmany with
    | manyNone => exact ⟨[], by simp⟩
    | @manyMore p' xs ys hxs _ _ ih =>
        obtain rfl := Pattern.many.inj hpattern
        obtain ⟨parts, hparts, rfl⟩ := ih rfl
        exact ⟨xs :: parts, by simpa using ⟨hxs, hparts⟩, rfl⟩
    | _ => exact Pattern.noConfusion hpattern
  · rintro ⟨parts, hparts, rfl⟩
    induction parts with
    | nil => exact .manyNone
    | cons part parts ih =>
        rw [List.forall_mem_cons] at hparts
        exact .manyMore hparts.1 (ih hparts.2)

theorem matches_atLeastOnce_iff :
    Matches (.atLeastOnce p) cs ↔ ∃ parts : List (List Char), parts ≠ [] ∧
      (∀ part ∈ parts, Matches p part) ∧ parts.flatten = cs := by
  rw [atLeastOnce, matches_seq_iff]
  constructor
  · rintro ⟨xs, ys, hxs, hys, rfl⟩
    obtain ⟨parts, hparts, rfl⟩ := matches_many_iff.mp hys
    exact ⟨xs :: parts, by simp, by simpa using ⟨hxs, hparts⟩, rfl⟩
  · rintro ⟨parts, hne, hparts, rfl⟩
    obtain ⟨part, parts, rfl⟩ := List.exists_cons_of_ne_nil hne
    rw [List.forall_mem_cons] at hparts
    exact ⟨part, parts.flatten, hparts.1, matches_many_iff.mpr ⟨parts, hparts.2, rfl⟩, rfl⟩

end Lexgen.Text.Pattern
