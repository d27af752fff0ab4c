import Lexgen.Proofs.Text.Segments
import Lexgen.Text.Snake

namespace Lexgen.Text

/-- A letter or digit that lower case leaves alone. -/
def IsSmall (c : Char) : Prop :=
  isAlphanumeric c = true ∧ isUppercase c = false ∧ lowerForm c = [c]

/-- Lower case of the character is a small letter or several of them. -/
def IsSettled (c : Char) : Prop := ∀ d ∈ lowerForm c, IsSmall d

instance (c : Char) : Decidable (IsSmall c) :=
  inferInstanceAs (Decidable (_ ∧ _ ∧ _))

instance (c : Char) : Decidable (IsSettled c) :=
  List.decidableBAll IsSmall (lowerForm c)

theorem isSettled_of_isAscii {c : Char} (hascii : isAscii c = true)
    (hletter : isAlphanumeric c = true) : IsSettled c := by
  have hall : ∀ n < 128, isAlphanumeric (Char.ofNat n) = true → IsSettled (Char.ofNat n) := by
    decide +kernel
  have hc := hall c.toNat (by simpa [isAscii] using hascii)
  rw [Char.ofNat_toNat] at hc
  exact hc hletter

section Pieces

variable {isMark : Char → Bool}

theorem mem_of_mem_splitBy {cs piece : List Char} (hpiece : piece ∈ splitBy isMark cs) {c : Char}
    (hc : c ∈ piece) : c ∈ cs ∧ isMark c = false := by
  fun_induction splitBy isMark cs generalizing piece with
  | case1 =>
      rw [List.mem_singleton.mp hpiece] at hc
      exact absurd hc List.not_mem_nil
  | case2 d rest hd ih =>
      rcases List.mem_cons.mp hpiece with rfl | hpiece
      · exact absurd hc List.not_mem_nil
      · exact (ih hpiece hc).imp_left (List.mem_cons_of_mem d)
  | case3 d rest hd hsplit ih =>
      rw [List.mem_singleton.mp hpiece, List.mem_singleton] at hc
      rw [hc]
      exact ⟨List.mem_cons_self, Bool.eq_false_iff.mpr hd⟩
  | case4 d rest hd first pieces hsplit ih =>
      rcases List.mem_cons.mp hpiece with rfl | hpiece
      · rcases List.mem_cons.mp hc with rfl | hc
        · exact ⟨List.mem_cons_self, Bool.eq_false_iff.mpr hd⟩
        · exact (ih (hsplit ▸ List.mem_cons_self) hc).imp_left (List.mem_cons_of_mem d)
      · exact (ih (hsplit ▸ List.mem_cons_of_mem first hpiece) hc).imp_left (List.mem_cons_of_mem d)

theorem splitBy_intercalate {mark : Char} (hmark : isMark mark = true)
    {pieces : List (List Char)} (hne : pieces ≠ [])
    (hpieces : ∀ piece ∈ pieces, ∀ c ∈ piece, isMark c = false) :
    splitBy isMark ([mark].intercalate pieces) = pieces := by
  rw [splitBy_eq_splitOnP]
  induction pieces with
  | nil => exact absurd rfl hne
  | cons piece pieces ih =>
      rw [List.forall_mem_cons] at hpieces
      rcases pieces with _ | ⟨next, pieces⟩
      · simpa [List.intercalate] using List.splitOnP_eq_singleton hpieces.1
      · have hjoin : [mark].intercalate (piece :: next :: pieces) =
            piece ++ mark :: [mark].intercalate (next :: pieces) := by
          simp
        rw [hjoin, List.splitOnP_append_cons_of_forall_mem hpieces.1 mark hmark,
          ih (List.cons_ne_nil _ _) hpieces.2]

end Pieces

section Words

variable {current : WordCase} {word cs w : List Char}

theorem flatten_wordsFrom (hne : cs ≠ []) :
    (wordsFrom current word cs).flatten = word.reverse ++ cs := by
  fun_induction wordsFrom current word cs with
  | case1 => exact absurd rfl hne
  | case2 current word c => simp
  | case3 current word c next rest _ ih =>
      rw [List.flatten_cons, ih (List.cons_ne_nil _ _)]
      simp
  | case4 current word c next rest _ _ ih =>
      rw [List.flatten_cons, ih (List.cons_ne_nil _ _)]
      simp
  | case5 current word c next rest _ _ ih =>
      rw [ih (List.cons_ne_nil _ _)]
      simp

theorem ne_nil_of_mem_wordsFrom (hstart : current = .upper → word ≠ [])
    (hw : w ∈ wordsFrom current word cs) : w ≠ [] := by
  fun_induction wordsFrom current word cs with
  | case1 => simp at hw
  | case2 current word c =>
      rw [List.mem_singleton.mp hw]
      simp
  | case3 current word c next rest _ ih =>
      rcases List.mem_cons.mp hw with rfl | hw
      · simp
      · exact ih (by simp) hw
  | case4 current word c next rest _ hends ih =>
      rcases List.mem_cons.mp hw with rfl | hw
      · simpa using hstart hends.1
      · exact ih (by simp) hw
  | case5 current word c next rest _ _ ih => exact ih (by simp) hw

theorem wordsFrom_eq_singleton (hne : cs ≠ []) (hcs : ∀ c ∈ cs, isUppercase c = false) :
    wordsFrom current word cs = [word.reverse ++ cs] := by
  fun_induction wordsFrom current word cs with
  | case1 => exact absurd rfl hne
  | case2 current word c => simp
  | case3 current word c next rest hends ih =>
      rw [List.forall_mem_cons, List.forall_mem_cons] at hcs
      exact absurd hends.2 (Bool.eq_false_iff.mp hcs.2.1)
  | case4 current word c next rest _ hends ih =>
      rw [List.forall_mem_cons] at hcs
      exact absurd hends.2.1 (Bool.eq_false_iff.mp hcs.1)
  | case5 current word c next rest _ _ ih =>
      rw [ih (List.cons_ne_nil _ _) (List.forall_mem_cons.mp hcs).2]
      simp

theorem ne_nil_of_mem_words (hw : w ∈ words cs) : w ≠ [] := by
  obtain ⟨run, -, hw⟩ := List.mem_flatMap.mp hw
  exact ne_nil_of_mem_wordsFrom (by simp) hw

theorem mem_of_mem_words (hw : w ∈ words cs) {c : Char} (hc : c ∈ w) :
    c ∈ cs ∧ isAlphanumeric c = true := by
  obtain ⟨run, hrun, hw⟩ := List.mem_flatMap.mp hw
  have hmem : c ∈ run := by
    have hflat : c ∈ (wordsFrom .none [] run).flatten := List.mem_flatten.mpr ⟨w, hw, hc⟩
    rcases run with _ | ⟨d, run⟩
    · simp [wordsFrom] at hw
    · rwa [flatten_wordsFrom (List.cons_ne_nil _ _)] at hflat
  simpa using mem_of_mem_splitBy hrun hmem

end Words

section LowerCase

variable {w : List Char}

theorem lowerForm_ne_nil (c : Char) : lowerForm c ≠ [] := by
  rw [lowerForm]
  repeat' split
  all_goals exact List.cons_ne_nil _ _

theorem lowerWord_ne_nil (hne : w ≠ []) : lowerWord w ≠ [] := by
  fun_cases lowerWord w with
  | case1 => exact absurd rfl hne
  | case2 => exact List.cons_ne_nil _ _
  | case3 c _ => exact lowerForm_ne_nil c
  | case4 c rest _ => exact List.append_ne_nil_of_left_ne_nil (lowerForm_ne_nil c) _

theorem isSmall_of_mem_lowerWord (hw : ∀ c ∈ w, IsSettled c) {d : Char} (hd : d ∈ lowerWord w) :
    IsSmall d := by
  fun_induction lowerWord w with
  | case1 => simp at hd
  | case2 =>
      rw [List.mem_singleton.mp hd]
      decide +kernel
  | case3 c _ => exact hw c List.mem_cons_self d hd
  | case4 c rest _ ih =>
      rw [List.forall_mem_cons] at hw
      rcases List.mem_append.mp hd with hd | hd
      · exact hw.1 d hd
      · exact ih hw.2 hd

theorem lowerWord_eq_self (hw : ∀ c ∈ w, IsSmall c) : lowerWord w = w := by
  fun_induction lowerWord w with
  | case1 => rfl
  | case2 => exact absurd (hw 'Σ' List.mem_cons_self) (by decide +kernel)
  | case3 c _ => exact (hw c List.mem_cons_self).2.2
  | case4 c rest _ ih =>
      rw [List.forall_mem_cons] at hw
      rw [hw.1.2.2, ih hw.2]
      rfl

end LowerCase

theorem snakeChars_intercalate {small : List (List Char)} (hne : ∀ w ∈ small, w ≠ [])
    (hsmall : ∀ w ∈ small, ∀ c ∈ w, IsSmall c) :
    snakeChars (['_'].intercalate small) = ['_'].intercalate small := by
  by_cases hempty : small = []
  · rw [hempty]
    rfl
  · have hpieces : splitBy (fun c => !isAlphanumeric c) (['_'].intercalate small) = small :=
      splitBy_intercalate rfl hempty fun w hw c hc => by simp [(hsmall w hw c hc).1]
    have hwords : small.flatMap (wordsFrom .none []) = small :=
      calc small.flatMap (wordsFrom .none [])
          = (small.map fun w => [w]).flatten := by
            rw [List.flatMap_def]
            congr 1
            refine List.map_congr_left fun w hw => ?_
            exact wordsFrom_eq_singleton (hne w hw) fun c hc => (hsmall w hw c hc).2.1
        _ = small := by rw [← List.flatMap_def, List.flatMap_singleton']
    have hlower : small.map lowerWord = small :=
      calc small.map lowerWord
          = small.map fun w => w :=
            List.map_congr_left fun w hw => lowerWord_eq_self (hsmall w hw)
        _ = small := List.map_id' small
    rw [snakeChars, words, hpieces, hwords, hlower]

theorem snakeCase_snakeCase {s : String}
    (hs : ∀ c ∈ s.toList, isAlphanumeric c = true → IsSettled c) :
    snakeCase (snakeCase s) = snakeCase s := by
  have hwords : ∀ w ∈ (words s.toList).map lowerWord, w ≠ [] ∧ ∀ c ∈ w, IsSmall c := by
    intro w hw
    obtain ⟨word, hword, rfl⟩ := List.mem_map.mp hw
    refine ⟨lowerWord_ne_nil (ne_nil_of_mem_words hword), fun c hc => ?_⟩
    refine isSmall_of_mem_lowerWord (fun d hd => ?_) hc
    exact hs d (mem_of_mem_words hword hd).1 (mem_of_mem_words hword hd).2
  have hchars : snakeChars (snakeChars s.toList) = snakeChars s.toList :=
    snakeChars_intercalate (fun w hw => (hwords w hw).1) (fun w hw => (hwords w hw).2)
  rw [snakeCase, snakeCase, String.toList_ofList, hchars]

end Lexgen.Text
