import Lexgen.Proofs.Names.Lookalikes
import Lexgen.Proofs.Text.SnakeCase
import Mathlib.Data.List.TakeWhile

/-!
Where the words of a text start. Snake case finds words by a scanner that carries the case of the
last letter and looks one character ahead. In ASCII the same words are found by a rule on places: a
letter or digit starts a word by what stands before it and the one character behind it.
-/

namespace Lexgen.Names

open Lexgen.Text

/-- The nearest letter in the run of letters and digits that ends where `before` does; `before` is
given from its end. -/
def letterBefore? (before : List Char) : Option Char :=
  (before.takeWhile Char.isAlphanum).find? Char.isAlpha

/-- Whether a letter or digit starts a word: it is the first of its run, or it is a capital with a
letter before it in the run, and that letter or the next character is small. -/
def startsWord (before : List Char) (c : Char) (after : List Char) : Bool :=
  !before.head?.any Char.isAlphanum ||
    c.isUpper && (letterBefore? before).any fun letter =>
      letter.isLower || after.head?.any Char.isLower

/-- The letters and digits of a text after `before`, each with whether it starts a word. -/
def lettersAfter (before : List Char) : List Char → List (Char × Bool)
  | [] => []
  | c :: after =>
    (if c.isAlphanum then [(c, startsWord before c after)] else []) ++
      lettersAfter (c :: before) after

/-- The letters and digits of a text without their case, each with whether it starts a word. -/
def spelling (s : String) : List (Char × Bool) :=
  (lettersAfter [] s.toList).map fun (c, starts) => (c.toLower, starts)

section Characters

variable {c : Char}

theorem isAscii_of_isAlphanum (hc : c.isAlphanum = true) : isAscii c = true :=
  isAscii_of_isInner (Nsid.isInner_of_isLetterOrDigit hc)

theorem isUppercase_eq (hc : isAscii c = true) : isUppercase c = c.isUpper := if_pos hc

theorem isLowercase_eq (hc : isAscii c = true) : isLowercase c = c.isLower := if_pos hc

theorem isAlphanumeric_eq (hc : isAscii c = true) : isAlphanumeric c = c.isAlphanum := if_pos hc

end Characters

section Scanner

variable {current current' : WordCase} {before word rest : List Char} {c next : Char}

/-- The case that the scanner remembers. -/
def caseBefore (before : List Char) : WordCase :=
  match letterBefore? before with
  | none => .none
  | some letter => if letter.isLower then .lower else .upper

theorem caseBefore_cons (hc : c.isAlphanum = true) :
    caseBefore (c :: before) = (caseBefore before).after c := by
  have hascii := isAscii_of_isAlphanum hc
  rw [WordCase.after, isLowercase_eq hascii, isUppercase_eq hascii, caseBefore, letterBefore?,
    List.takeWhile_cons_of_pos hc, List.find?_cons, isAlpha_eq]
  cases hlower : c.isLower <;> cases hupper : c.isUpper <;> simp [hlower, caseBefore, letterBefore?]

theorem caseBefore_of_no_run (hbefore : before.head?.any Char.isAlphanum = false) :
    caseBefore before = .none := by
  cases before with
  | nil => rfl
  | cons c before =>
      have hc : ¬ c.isAlphanum = true := by simpa using hbefore
      rw [caseBefore, letterBefore?, List.takeWhile_cons_of_neg hc]
      rfl

theorem startsWord_iff {after : List Char} : startsWord before c after = true ↔
    before.head?.any Char.isAlphanum = false ∨
      c.isUpper = true ∧ (caseBefore before = .lower ∨
        caseBefore before = .upper ∧ after.head?.any Char.isLower = true) := by
  rw [startsWord, Bool.or_eq_true, Bool.not_eq_true', Bool.and_eq_true, caseBefore]
  cases letterBefore? before with
  | none => simp
  | some letter => cases hlower : letter.isLower <;> simp [hlower]

theorem wordsFrom_congr (hc : isLowercase c = true ∧ isUppercase c = false ∨
      isUppercase c = true ∧ current ≠ .upper ∧ current' ≠ .upper) :
    wordsFrom current word (c :: rest) = wordsFrom current' word (c :: rest) := by
  have hafter : current.after c = current'.after c := by
    simp only [WordCase.after]
    grind
  cases rest with
  | nil => rfl
  | cons next rest =>
      rw [wordsFrom, wordsFrom, hafter]
      grind

theorem wordsFrom_cons_cons (hnext : isAscii next = true) :
    wordsFrom current word (c :: next :: rest) =
      if current.after c = .lower ∧ isUppercase next then
        (c :: word).reverse :: wordsFrom (current.after c) [] (next :: rest)
      else if current = .upper ∧ isUppercase c ∧ isLowercase next then
        word.reverse :: wordsFrom (current.after c) [c] (next :: rest)
      else wordsFrom (current.after c) (c :: word) (next :: rest) := by
  rw [wordsFrom]
  split
  · rename_i hends
    exact congrArg _ (wordsFrom_congr (.inr ⟨hends.2, by simp, by simp [hends.1]⟩))
  · split
    · rename_i hends
      have hlower : next.isLower = true := isLowercase_eq hnext ▸ hends.2.2
      have hupper : isUppercase next = false := by
        rw [isUppercase_eq hnext]
        exact Bool.eq_false_iff.mpr (not_isUpper_of_isLower hlower)
      exact congrArg _ (wordsFrom_congr (.inl ⟨hends.2.2, hupper⟩))
    · rfl

theorem wordLetters_concat (word : List Char) (c : Char) :
    wordLetters (word ++ [c]) = wordLetters word ++ [(c, word.isEmpty)] := by
  cases word with
  | nil => rfl
  | cons d word => simp [wordLetters]

/-- The scanner is about to read `c`: it has a word to continue unless `c` starts one by what stands
before it. -/
def IsAt (before word : List Char) (c : Char) : Prop :=
  word = [] ↔ before.head?.any Char.isAlphanum = false ∨
    caseBefore before = .lower ∧ c.isUpper = true

theorem startsWord_eq_isEmpty {after : List Char} (hat : IsAt before word c)
    (hstays : ¬ (caseBefore before = .upper ∧ c.isUpper = true ∧
      after.head?.any Char.isLower = true)) :
    startsWord before c after = word.isEmpty := by
  have hword : word.isEmpty = true ↔ _ := List.isEmpty_iff.trans hat
  rw [Bool.eq_iff_iff, startsWord_iff, hword]
  grind

theorem isAt_of_goesOn (hc : c.isAlphanum = true) (hword : word ≠ [])
    (hgoesOn : ¬ (caseBefore (c :: before) = .lower ∧ next.isUpper = true)) :
    IsAt (c :: before) word next := by
  refine iff_of_false hword ?_
  rintro (hnone | hends)
  · exact absurd hc (Bool.eq_false_iff.mp hnone)
  · exact hgoesOn hends

/-- The words of a run of letters and digits. The scanner cuts behind a letter when it sees the next
one, and before a letter when it sees the one after it; by places, both are the start of a word. -/
theorem flatMap_wordsFrom (hrun : ∀ d ∈ c :: rest, d.isAlphanum = true) (hat : IsAt before word c) :
    (wordsFrom (caseBefore before) word (c :: rest)).flatMap wordLetters =
      wordLetters word.reverse ++ lettersAfter before (c :: rest) := by
  induction rest generalizing before word c with
  | nil =>
      have hc : c.isAlphanum = true := hrun c List.mem_cons_self
      have hstarts : startsWord before c [] = word.isEmpty := startsWord_eq_isEmpty hat (by simp)
      simp [wordsFrom, wordLetters_concat, lettersAfter, hc, hstarts]
  | cons next rest ih =>
      obtain ⟨hc, hrest⟩ := List.forall_mem_cons.mp hrun
      have hnext : next.isAlphanum = true := hrest next List.mem_cons_self
      have hascii := isAscii_of_isAlphanum hnext
      rw [wordsFrom_cons_cons hascii, ← caseBefore_cons hc, isUppercase_eq hascii,
        isLowercase_eq hascii, isUppercase_eq (isAscii_of_isAlphanum hc), lettersAfter, if_pos hc]
      split
      · -- the word ends behind `c`, as `next` starts another
        rename_i hends
        have hstarts : startsWord before c (next :: rest) = word.isEmpty := by
          refine startsWord_eq_isEmpty hat fun hbreak => ?_
          exact not_isUpper_of_isLower (by simpa using hbreak.2.2) hends.2
        have hat' : IsAt (c :: before) [] next := iff_of_true rfl (.inr hends)
        rw [List.flatMap_cons, ih hrest hat', hstarts, List.reverse_cons, wordLetters_concat]
        simp [wordLetters]
      · rename_i hgoesOn
        split
        · -- the word ends before `c`, which only `next` shows
          rename_i hends
          have hstarts : startsWord before c (next :: rest) = true :=
            startsWord_iff.mpr (.inr ⟨hends.2.1, .inr ⟨hends.1, hends.2.2⟩⟩)
          rw [List.flatMap_cons, ih hrest (isAt_of_goesOn hc (by simp) hgoesOn), hstarts]
          rfl
        · rename_i hstays
          have hstarts : startsWord before c (next :: rest) = word.isEmpty :=
            startsWord_eq_isEmpty hat hstays
          rw [ih hrest (isAt_of_goesOn hc (by simp) hgoesOn), hstarts, List.reverse_cons,
            wordLetters_concat]
          simp

end Scanner

section Texts

variable {before cs : List Char}

theorem lettersAfter_append {tail : List Char} (htail : tail.head?.any Char.isLower = false) :
    lettersAfter before (cs ++ tail) =
      lettersAfter before cs ++ lettersAfter (cs.reverse ++ before) tail := by
  induction cs generalizing before with
  | nil => rfl
  | cons c cs ih =>
      have hnext : (cs ++ tail).head?.any Char.isLower = cs.head?.any Char.isLower := by
        cases cs with
        | nil => exact htail
        | cons d cs => rfl
      have hstarts : startsWord before c (cs ++ tail) = startsWord before c cs := by
        rw [startsWord, startsWord, hnext]
      rw [List.cons_append, lettersAfter, lettersAfter, ih, hstarts]
      simp

theorem words_append_cons {mark : Char} (hmark : isAlphanumeric mark = false) (xs ys : List Char) :
    words (xs ++ mark :: ys) = words xs ++ words ys := by
  rw [words, words, words, splitBy_eq_splitOnP, splitBy_eq_splitOnP, splitBy_eq_splitOnP,
    List.splitOnP_append_cons _ _ (by simp [hmark]), List.flatMap_append]

theorem flatMap_words_of_run (hrun : ∀ c ∈ cs, c.isAlphanum = true)
    (hbefore : before.head?.any Char.isAlphanum = false) :
    (words cs).flatMap wordLetters = lettersAfter before cs := by
  have hmarks : ∀ c ∈ cs, (fun c => !isAlphanumeric c) c = false := by
    intro c hc
    simp [isAlphanumeric_eq (isAscii_of_isAlphanum (hrun c hc)), hrun c hc]
  rw [words, splitBy_eq_splitOnP, List.splitOnP_eq_singleton hmarks, List.flatMap_singleton]
  cases cs with
  | nil => rfl
  | cons c rest =>
      have hat : IsAt before [] c := iff_of_true rfl (.inl hbefore)
      rw [← caseBefore_of_no_run hbefore, flatMap_wordsFrom hrun hat]
      rfl

theorem exists_run (cs : List Char) : ∃ run tail, cs = run ++ tail ∧
    (∀ c ∈ run, c.isAlphanum = true) ∧ tail.head?.any Char.isAlphanum = false := by
  refine ⟨cs.takeWhile Char.isAlphanum, cs.dropWhile Char.isAlphanum,
    List.takeWhile_append_dropWhile.symm, fun c => List.mem_takeWhile_imp, ?_⟩
  have hhead := List.head?_dropWhile_not Char.isAlphanum cs
  cases htail : (cs.dropWhile Char.isAlphanum).head? with
  | none => rfl
  | some mark => simpa [htail] using hhead

theorem flatMap_words (hascii : ∀ c ∈ cs, isAscii c = true)
    (hbefore : before.head?.any Char.isAlphanum = false) :
    (words cs).flatMap wordLetters = lettersAfter before cs := by
  induction hlength : cs.length using Nat.strongRecOn generalizing cs before with
  | ind n ih =>
      obtain ⟨run, tail, rfl, hrun, htail⟩ := exists_run cs
      cases tail with
      | nil =>
          rw [List.append_nil]
          exact flatMap_words_of_run hrun hbefore
      | cons mark rest =>
          obtain ⟨-, hmark', hrest⟩ : _ ∧ isAscii mark = true ∧ ∀ c ∈ rest, isAscii c = true := by
            simpa only [List.forall_mem_append, List.forall_mem_cons] using hascii
          have hmark : mark.isAlphanum = false := htail
          have hsmall : (mark :: rest).head?.any Char.isLower = false := by
            rw [← Bool.not_eq_true]
            intro hlower
            rw [isAlphanum_of_isLower hlower] at hmark
            contradiction
          have hless : rest.length < n := by
            rw [← hlength, List.length_append, List.length_cons]
            omega
          have hbefore' : (mark :: (run.reverse ++ before)).head?.any Char.isAlphanum = false :=
            hmark
          rw [words_append_cons (by rw [isAlphanumeric_eq hmark', hmark]), List.flatMap_append,
            flatMap_words_of_run hrun hbefore, lettersAfter_append hsmall, lettersAfter,
            if_neg (by simp [hmark]), List.nil_append, ih _ hless hrest hbefore' rfl]

end Texts

section Words

variable {ws vs : List (List Char)} {cs : List Char}

/-- Puts a letter before the words that follow it, or before a word that has not started yet. -/
def addLetter : Char × Bool → List Char × List (List Char) → List Char × List (List Char)
  | (c, true), (word, words) => ([], (c :: word) :: words)
  | (c, false), (word, words) => (c :: word, words)

theorem foldr_addLetter_wordLetters {w : List Char} (hw : w ≠ []) :
    (wordLetters w).foldr addLetter ([], ws) = ([], w :: ws) := by
  obtain ⟨c, rest, rfl⟩ := List.exists_cons_of_ne_nil hw
  have hrest : (rest.map (·, false)).foldr addLetter ([], ws) = (rest, ws) := by
    induction rest with
    | nil => rfl
    | cons d rest ih =>
        rw [List.map_cons, List.foldr_cons, ih (List.cons_ne_nil c rest)]
        rfl
  rw [wordLetters, List.foldr_cons, hrest]
  rfl

theorem foldr_addLetter_flatMap (hws : ∀ w ∈ ws, w ≠ []) :
    (ws.flatMap wordLetters).foldr addLetter ([], []) = ([], ws) := by
  induction ws with
  | nil => rfl
  | cons w ws ih =>
      rw [List.forall_mem_cons] at hws
      rw [List.flatMap_cons, List.foldr_append, ih hws.2, foldr_addLetter_wordLetters hws.1]

theorem flatMap_wordLetters_injective (hws : ∀ w ∈ ws, w ≠ []) (hvs : ∀ v ∈ vs, v ≠ [])
    (heq : ws.flatMap wordLetters = vs.flatMap wordLetters) : ws = vs := by
  have hwords := congrArg (List.foldr addLetter ([], [])) heq
  rw [foldr_addLetter_flatMap hws, foldr_addLetter_flatMap hvs] at hwords
  exact (Prod.mk.inj hwords).2

theorem lowerWord_eq_map {w : List Char} (hascii : ∀ c ∈ w, isAscii c = true) :
    lowerWord w = w.map Char.toLower := by
  fun_induction lowerWord w with
  | case1 => rfl
  | case2 => exact absurd (hascii 'Σ' List.mem_cons_self) (by decide)
  | case3 c _ => exact if_pos (hascii c List.mem_cons_self)
  | case4 c rest _ ih =>
      rw [List.forall_mem_cons] at hascii
      rw [ih hascii.2, lowerForm, if_pos hascii.1]
      rfl

theorem wordLetters_map (w : List Char) (f : Char → Char) :
    wordLetters (w.map f) = (wordLetters w).map fun (c, starts) => (f c, starts) := by
  cases w with
  | nil => rfl
  | cons c rest => simp [wordLetters]

/-- The words of the snake case of a text. -/
def smallWords (cs : List Char) : List (List Char) := (words cs).map lowerWord

theorem flatMap_smallWords (hascii : ∀ c ∈ cs, isAscii c = true) :
    (smallWords cs).flatMap wordLetters =
      (lettersAfter [] cs).map fun (c, starts) => (c.toLower, starts) := by
  rw [← flatMap_words hascii rfl, smallWords, List.flatMap_map, List.map_flatMap]
  apply List.flatMap_congr
  intro w hw
  rw [lowerWord_eq_map fun c hc => hascii c (mem_of_mem_words hw hc).1, wordLetters_map]

theorem ne_nil_of_mem_smallWords {w : List Char} (hw : w ∈ smallWords cs) : w ≠ [] := by
  obtain ⟨word, hword, rfl⟩ := List.mem_map.mp hw
  exact lowerWord_ne_nil (ne_nil_of_mem_words hword)

theorem underscore_not_mem_smallWords (hascii : ∀ c ∈ cs, isAscii c = true) {w : List Char}
    (hw : w ∈ smallWords cs) : '_' ∉ w := by
  obtain ⟨word, hword, rfl⟩ := List.mem_map.mp hw
  intro hmark
  have hsmall : IsSmall '_' := by
    refine isSmall_of_mem_lowerWord (fun c hc => ?_) hmark
    obtain ⟨hmem, hletter⟩ := mem_of_mem_words hword hc
    exact isSettled_of_isAscii (hascii c hmem) hletter
  exact absurd hsmall (by decide)

theorem smallWords_eq_iff_spelling_eq {s t : String} (hs : ∀ c ∈ s.toList, isAscii c = true)
    (ht : ∀ c ∈ t.toList, isAscii c = true) :
    smallWords s.toList = smallWords t.toList ↔ spelling s = spelling t := by
  rw [spelling, spelling, ← flatMap_smallWords hs, ← flatMap_smallWords ht]
  constructor
  · exact congrArg _
  · exact flatMap_wordLetters_injective (fun _ => ne_nil_of_mem_smallWords)
      (fun _ => ne_nil_of_mem_smallWords)

end Words

end Lexgen.Names
