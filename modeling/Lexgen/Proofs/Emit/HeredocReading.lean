import Lexgen.Emit.Heredoc
import Lexgen.Proofs.Emit.StringReading
import Lexgen.Proofs.Text.Segments

/-!
Heredocs read back. The reader looks at lines first: one with nothing but spaces and tabs before a
triple quote ends the heredoc, whatever is escaped. What comes before it loses its indentation, and
only then a backslash stands for the character after it.
-/

namespace Lexgen.Emit

open Lexgen.Text

def isIndent (c : Char) : Bool := c == ' ' || c == '\t'

/-- What follows the triple quote on a line that ends a heredoc; nothing for any other line. -/
def afterEnd? (line : List Char) : Option (List Char) :=
  match line.dropWhile isIndent with
  | '"' :: '"' :: '"' :: after => some after
  | _ => none

/-- The lines before the first one that ends a heredoc, and the text behind its triple quote. -/
def cutAtEnd : List (List Char) → Option (List (List Char) × List Char)
  | [] => none
  | line :: rest =>
    match afterEnd? line with
    | some after => some ([], ['\n'].intercalate (after :: rest))
    | none => (cutAtEnd rest).map fun (body, after) => (line :: body, after)

/-- A line without the spaces at its start, of which at most `indent` are dropped. -/
def dropIndent : Nat → List Char → List Char
  | indent + 1, ' ' :: rest => dropIndent indent rest
  | _, line => line

/-- What the text of a heredoc stands for. A sharp and a brace start an interpolation, unless a
backslash comes before them. -/
def unescape : List Char → Except ReadingFault (List Char)
  | [] => .ok []
  | '\\' :: c :: rest => (unescape rest).map (c :: ·)
  | '#' :: '\x7b' :: _ => .error .interpolated
  | c :: rest => (unescape rest).map (c :: ·)

/-- Reads a heredoc, and gives the text it stands for and what is left to read. -/
def readHeredoc (indent : Nat) : List Char → Except ReadingFault (List Char × List Char)
  | '"' :: '"' :: '"' :: '\n' :: cs =>
    match cutAtEnd (splitAtChar '\n' cs) with
    | some (body, after) =>
      (unescape (body.flatMap fun line => dropIndent indent line ++ ['\n'])).map (·, after)
    | none => .error .notEnded
  | _ => .error .notOpened

section Lines

theorem mem_of_mem_trimEnd {c : Char} {cs : List Char} (hc : c ∈ trimEnd cs) : c ∈ cs := by
  have hdropped : c ∈ cs.reverse.dropWhile isBlank := List.mem_reverse.mp hc
  exact List.mem_reverse.mp ((List.dropWhile_sublist _).subset hdropped)

theorem mem_of_mem_dropReturn {c : Char} {line : List Char} (hc : c ∈ dropReturn line) :
    c ∈ line := by
  rw [dropReturn] at hc
  split at hc
  · exact List.dropLast_subset line hc
  · exact hc

theorem newline_not_mem_of_mem_lines {cs line : List Char} (hline : line ∈ lines cs) :
    '\n' ∉ line := by
  have hpieces : ∀ piece ∈ (splitAtChar '\n' cs).reverse, '\n' ∉ piece := by
    intro piece hpiece
    rw [List.mem_reverse, splitAtChar_eq_splitOn] at hpiece
    exact not_mem_of_mem_splitOn hpiece
  rw [lines] at hline
  split at hline
  · simp at hline
  · rename_i last ended hsplit
    rw [hsplit, List.forall_mem_cons] at hpieces
    rcases List.mem_append.mp hline with hended | hlast
    · obtain ⟨piece, hpiece, rfl⟩ := List.mem_map.mp (List.mem_reverse.mp hended)
      exact fun hmem => hpieces.2 piece hpiece (mem_of_mem_dropReturn hmem)
    · split at hlast
      · simp at hlast
      · rw [List.mem_singleton.mp hlast]
        exact hpieces.1

theorem splitAtChar_append_cons {mark : Char} {piece : List Char} (hpiece : mark ∉ piece)
    (cs : List Char) : splitAtChar mark (piece ++ mark :: cs) = piece :: splitAtChar mark cs := by
  rw [splitAtChar_eq_splitOn, splitAtChar_eq_splitOn,
    List.splitOn_append_cons_self_of_not_mem hpiece]

theorem exists_splitAtChar_append {mark : Char} {front : List Char} (hfront : mark ∉ front)
    (cs : List Char) :
    ∃ piece pieces, splitAtChar mark cs = piece :: pieces ∧
      splitAtChar mark (front ++ cs) = (front ++ piece) :: pieces := by
  simp only [splitAtChar_eq_splitOn]
  induction front with
  | nil =>
      obtain ⟨piece, pieces, hcs⟩ := List.exists_cons_of_ne_nil (List.splitOn_ne_nil mark cs)
      exact ⟨piece, pieces, hcs, hcs⟩
  | cons c front ih =>
      rw [List.mem_cons, not_or] at hfront
      obtain ⟨piece, pieces, hcs, hsplit⟩ := ih hfront.2
      refine ⟨piece, pieces, hcs, ?_⟩
      rw [List.cons_append, List.splitOn_cons_eq_if_modifyHead, hsplit,
        if_neg (by simpa using Ne.symm hfront.1)]
      rfl

end Lines

section Replacements

variable {mark new cs : List Char}

theorem replaceFrom_succ (skip : Nat) (c : Char) (cs : List Char) :
    replaceFrom mark new (skip + 1) (c :: cs) = replaceFrom mark new skip cs :=
  rfl

theorem replaceAll_cons_eq (c : Char) (cs : List Char) :
    replaceAll mark new (c :: cs) =
      if mark.isPrefixOf (c :: cs) then new ++ replaceFrom mark new (mark.length - 1) cs
      else c :: replaceAll mark new cs :=
  rfl

theorem replaceFrom_length_append (front : List Char) :
    replaceFrom mark new front.length (front ++ cs) = replaceAll mark new cs := by
  induction front with
  | nil => rfl
  | cons c front ih => rw [List.length_cons, List.cons_append, replaceFrom_succ, ih]

theorem replaceAll_append (hmark : mark ≠ []) (cs : List Char) :
    replaceAll mark new (mark ++ cs) = new ++ replaceAll mark new cs := by
  obtain ⟨c, mark, rfl⟩ := List.exists_cons_of_ne_nil hmark
  have hstarts : (c :: mark).isPrefixOf (c :: (mark ++ cs)) = true := by
    rw [List.isPrefixOf_iff_prefix]
    exact List.prefix_append (c :: mark) cs
  rw [List.cons_append, replaceAll_cons_eq, if_pos hstarts, List.length_cons, Nat.add_sub_cancel,
    replaceFrom_length_append]

theorem replaceAll_cons {c : Char} (hmark : ¬ mark <+: c :: cs) :
    replaceAll mark new (c :: cs) = c :: replaceAll mark new cs := by
  rw [← List.isPrefixOf_iff_prefix] at hmark
  rw [replaceAll_cons_eq, if_neg hmark]

theorem replaceAll_cons_of_ne {c d : Char} (hne : d ≠ c) :
    replaceAll (d :: mark) new (c :: cs) = c :: replaceAll (d :: mark) new cs :=
  replaceAll_cons fun hprefix => hne (List.cons_prefix_cons.mp hprefix).1

theorem exists_of_replaceAll_eq_cons (hmark : mark ≠ []) {c : Char} {tail : List Char}
    (hc : c ≠ '\\') (heq : replaceAll mark ('\\' :: new) cs = c :: tail) :
    ∃ rest, cs = c :: rest ∧ replaceAll mark ('\\' :: new) rest = tail := by
  cases cs with
  | nil => exact absurd heq (List.cons_ne_nil _ _).symm
  | cons d rest =>
      by_cases hstarts : mark <+: d :: rest
      · obtain ⟨after, hafter⟩ := hstarts
        rw [← hafter, replaceAll_append hmark] at heq
        exact absurd (List.cons.inj heq).1.symm hc
      · rw [replaceAll_cons hstarts] at heq
        obtain ⟨rfl, htail⟩ := List.cons.inj heq
        exact ⟨rest, rfl, htail⟩

theorem mem_of_mem_replaceFrom {skip : Nat} {c : Char} (hc : c ∈ replaceFrom mark new skip cs) :
    c ∈ new ∨ c ∈ cs := by
  induction cs generalizing skip with
  | nil => cases skip <;> exact .inr hc
  | cons d cs ih =>
      cases skip with
      | succ skip =>
          rw [replaceFrom_succ] at hc
          exact (ih hc).imp_right (List.mem_cons_of_mem d)
      | zero =>
          rw [← replaceAll, replaceAll_cons_eq] at hc
          split at hc
          · rcases List.mem_append.mp hc with hnew | hcs
            · exact .inl hnew
            · exact (ih hcs).imp_right (List.mem_cons_of_mem d)
          · rcases List.mem_cons.mp hc with rfl | hcs
            · exact .inr List.mem_cons_self
            · exact (ih hcs).imp_right (List.mem_cons_of_mem d)

end Replacements

section Escapes

variable {line : List Char}

/-- What the three replacements of `escapeLine` come to in one pass. -/
def scanLine : List Char → List Char
  | [] => []
  | '"' :: '"' :: '"' :: rest => '\\' :: '"' :: '"' :: '"' :: scanLine rest
  | c :: rest =>
    if c = '\\' then '\\' :: '\\' :: scanLine rest
    else if c = '#' ∧ rest.head? = some '\x7b' then '\\' :: '#' :: scanLine rest
    else c :: scanLine rest

theorem escapeLine_cons {c : Char} {rest : List Char} (hslash : c ≠ '\\')
    (hquote : ¬ tripleQuote <+: c :: rest) (hsharp : ¬ (c = '#' ∧ rest.head? = some '\x7b')) :
    escapeLine (c :: rest) = c :: escapeLine rest := by
  -- An earlier replacement makes no triple quote and no interpolation: what it leaves without a
  -- backslash stood there before.
  have hquote' : ¬ tripleQuote <+: c :: replaceAll ['\\'] ['\\', '\\'] rest := by
    rintro ⟨after, heq⟩
    obtain ⟨hc, hrest⟩ := List.cons.inj heq
    obtain ⟨rest₁, rfl, hrest₁⟩ :=
      exists_of_replaceAll_eq_cons (List.cons_ne_nil _ _) (by decide) hrest.symm
    obtain ⟨rest₂, rfl, -⟩ :=
      exists_of_replaceAll_eq_cons (List.cons_ne_nil _ _) (by decide) hrest₁
    exact hquote ⟨rest₂, by rw [← hc]; rfl⟩
  have hsharp' : ¬ interpolation <+: c :: replaceAll tripleQuote ('\\' :: tripleQuote)
      (replaceAll ['\\'] ['\\', '\\'] rest) := by
    rintro ⟨after, heq⟩
    obtain ⟨hc, hrest⟩ := List.cons.inj heq
    obtain ⟨rest₁, hrest₁, -⟩ :=
      exists_of_replaceAll_eq_cons (List.cons_ne_nil _ _) (by decide) hrest.symm
    obtain ⟨rest₂, rfl, -⟩ :=
      exists_of_replaceAll_eq_cons (List.cons_ne_nil _ _) (by decide) hrest₁
    exact hsharp ⟨hc.symm, rfl⟩
  rw [escapeLine, replaceAll_cons_of_ne (Ne.symm hslash), replaceAll_cons hquote',
    replaceAll_cons hsharp']
  rfl

theorem escapeLine_slash (rest : List Char) :
    escapeLine ('\\' :: rest) = '\\' :: '\\' :: escapeLine rest := by
  have hslash : replaceAll ['\\'] ['\\', '\\'] ('\\' :: rest) =
      '\\' :: '\\' :: replaceAll ['\\'] ['\\', '\\'] rest :=
    replaceAll_append (List.cons_ne_nil _ _) rest
  simp only [escapeLine, hslash, tripleQuote, interpolation]
  repeat rw [replaceAll_cons_of_ne (by decide)]

theorem escapeLine_tripleQuote (rest : List Char) :
    escapeLine (tripleQuote ++ rest) = '\\' :: tripleQuote ++ escapeLine rest := by
  have hslash : replaceAll ['\\'] ['\\', '\\'] (tripleQuote ++ rest) =
      tripleQuote ++ replaceAll ['\\'] ['\\', '\\'] rest := by
    simp only [tripleQuote, List.cons_append, List.nil_append]
    repeat rw [replaceAll_cons_of_ne (by decide)]
  rw [escapeLine, hslash, replaceAll_append (show tripleQuote ≠ [] by decide)]
  simp only [escapeLine, interpolation, tripleQuote, List.cons_append, List.nil_append]
  repeat rw [replaceAll_cons_of_ne (by decide)]

theorem escapeLine_interpolation (rest : List Char) :
    escapeLine (interpolation ++ rest) = '\\' :: interpolation ++ escapeLine rest := by
  have hquote : replaceAll tripleQuote ('\\' :: tripleQuote)
      (replaceAll ['\\'] ['\\', '\\'] (interpolation ++ rest)) =
      interpolation ++ replaceAll tripleQuote ('\\' :: tripleQuote)
        (replaceAll ['\\'] ['\\', '\\'] rest) := by
    simp only [interpolation, tripleQuote, List.cons_append, List.nil_append]
    repeat rw [replaceAll_cons_of_ne (by decide)]
  rw [escapeLine, hquote, replaceAll_append (show interpolation ≠ [] by decide)]
  rfl

theorem escapeLine_eq_scanLine (line : List Char) : escapeLine line = scanLine line := by
  fun_induction scanLine line with
  | case1 => rfl
  | case2 rest ih =>
      rw [← ih]
      exact escapeLine_tripleQuote rest
  | case3 rest _ ih => rw [escapeLine_slash, ih]
  | case4 c rest _ _ hsharp ih =>
      obtain ⟨rfl, hbrace⟩ := hsharp
      obtain ⟨after, rfl⟩ := List.head?_eq_some_iff.mp hbrace
      have hafter : escapeLine ('\x7b' :: after) = '\x7b' :: escapeLine after :=
        escapeLine_cons (by decide) (by simp [tripleQuote]) (by simp)
      rw [← ih, hafter]
      exact escapeLine_interpolation after
  | case5 c rest hquote hslash hsharp ih =>
      rw [escapeLine_cons hslash ?_ hsharp, ih]
      rintro ⟨after, hline⟩
      obtain ⟨rfl, rfl⟩ := List.cons.inj hline
      exact hquote after rfl rfl

theorem exists_of_escapeLine_eq_cons {c : Char} {tail : List Char} (hc : c ≠ '\\')
    (heq : escapeLine line = c :: tail) :
    ∃ rest, line = c :: rest ∧ escapeLine rest = tail ∧ ¬ tripleQuote <+: line := by
  have hquote : ¬ tripleQuote <+: line := by
    rintro ⟨after, rfl⟩
    rw [escapeLine_tripleQuote] at heq
    exact hc (List.cons.inj heq).1.symm
  obtain ⟨quotes, hquotes, htail⟩ :=
    exists_of_replaceAll_eq_cons (List.cons_ne_nil _ _) hc heq
  obtain ⟨slashes, hslashes, rfl⟩ :=
    exists_of_replaceAll_eq_cons (List.cons_ne_nil _ _) hc hquotes
  obtain ⟨rest, hline, rfl⟩ :=
    exists_of_replaceAll_eq_cons (List.cons_ne_nil _ _) hc hslashes
  exact ⟨rest, hline, htail, hquote⟩

theorem not_tripleQuote_prefix_escapeLine (line : List Char) :
    ¬ tripleQuote <+: escapeLine line := by
  rintro ⟨after, heq⟩
  obtain ⟨line₁, rfl, heq₁, hline⟩ := exists_of_escapeLine_eq_cons (by decide) heq.symm
  obtain ⟨line₂, rfl, heq₂, -⟩ := exists_of_escapeLine_eq_cons (by decide) heq₁
  obtain ⟨line₃, rfl, -, -⟩ := exists_of_escapeLine_eq_cons (by decide) heq₂
  exact hline ⟨line₃, rfl⟩

theorem newline_not_mem_escapeLine (hline : '\n' ∉ line) : '\n' ∉ escapeLine line := by
  intro hmem
  have hquotes := (mem_of_mem_replaceFrom hmem).resolve_left (by decide)
  have hslashes := (mem_of_mem_replaceFrom hquotes).resolve_left (by decide)
  exact hline ((mem_of_mem_replaceFrom hslashes).resolve_left (by decide))

theorem unescape_cons {c : Char} {rest : List Char} (hslash : c ≠ '\\')
    (hsharp : c = '#' → rest.head? ≠ some '\x7b') :
    unescape (c :: rest) = (unescape rest).map (c :: ·) := by
  rw [unescape]
  · rintro d after rfl -
    exact hslash rfl
  · rintro after rfl rfl
    exact hsharp rfl rfl

theorem unescape_escapeLine_append {after text : List Char} (hafter : unescape after = .ok text)
    (line : List Char) :
    unescape (escapeLine line ++ '\n' :: after) = .ok (line ++ '\n' :: text) := by
  rw [escapeLine_eq_scanLine]
  fun_induction scanLine line with
  | case1 =>
      rw [List.nil_append, unescape_cons (by decide) (by simp), hafter]
      rfl
  | case2 rest ih =>
      show unescape ('\\' :: '"' :: ('"' :: '"' :: (scanLine rest ++ '\n' :: after))) = _
      rw [unescape, unescape_cons (by decide) (by simp), unescape_cons (by decide) (by simp), ih]
      rfl
  | case3 rest hquote ih =>
      show unescape ('\\' :: '\\' :: (scanLine rest ++ '\n' :: after)) = _
      rw [unescape, ih]
      rfl
  | case4 c rest hquote hslash hsharp ih =>
      show unescape ('\\' :: '#' :: (scanLine rest ++ '\n' :: after)) = _
      rw [unescape, ih, hsharp.1]
      rfl
  | case5 c rest hquote hslash hsharp ih =>
      rw [List.cons_append, unescape_cons hslash, ih]
      · rfl
      -- the brace of an interpolation would have to be the first character of the rest
      · intro hc hbrace
        rw [← escapeLine_eq_scanLine] at hbrace
        rcases hrest : escapeLine rest with _ | ⟨d, tail⟩
        · simp [hrest] at hbrace
        · obtain rfl : d = '\x7b' := by simpa [hrest] using hbrace
          obtain ⟨rest', rfl, -, -⟩ := exists_of_escapeLine_eq_cons (by decide) hrest
          exact hsharp ⟨hc, rfl⟩

end Escapes

section Body

theorem dropIndent_replicate_append (indent : Nat) (line : List Char) :
    dropIndent indent (List.replicate indent ' ' ++ line) = line := by
  induction indent with
  | zero => rw [List.replicate_zero, List.nil_append, dropIndent]; simp
  | succ indent ih => rw [List.replicate_succ, List.cons_append, dropIndent, ih]

theorem afterEnd?_replicate_append (indent : Nat) (line : List Char) :
    afterEnd? (List.replicate indent ' ' ++ line) = afterEnd? line := by
  rw [afterEnd?, afterEnd?, List.dropWhile_append_of_pos]
  intro c hc
  rw [List.eq_of_mem_replicate hc]
  rfl

theorem afterEnd?_eq_none {line : List Char} (hline : ¬ tripleQuote <+: line.dropWhile isIndent) :
    afterEnd? line = none := by
  rw [afterEnd?]
  split
  · rename_i after heq
    exact absurd ⟨after, heq.symm⟩ hline
  · rfl

theorem afterEnd?_escapeLine (line : List Char) : afterEnd? (escapeLine line) = none := by
  apply afterEnd?_eq_none
  induction line with
  | nil => exact fun hend => absurd hend.length_le (by decide)
  | cons c rest ih =>
      rcases hescaped : escapeLine (c :: rest) with _ | ⟨d, tail⟩
      · exact fun hend => absurd hend.length_le (by decide)
      · by_cases hd : isIndent d
        · have hslash : d ≠ '\\' := by rintro rfl; exact absurd hd (by decide)
          obtain ⟨rest', hrest, htail, -⟩ := exists_of_escapeLine_eq_cons hslash hescaped
          rw [List.dropWhile_cons_of_pos hd, ← htail, ← (List.cons.inj hrest).2]
          exact ih
        · rw [List.dropWhile_cons_of_neg hd, ← hescaped]
          exact not_tripleQuote_prefix_escapeLine _

theorem exists_heredocLine_eq (indent : Nat) {line : List Char} (hline : '\n' ∉ line) :
    ∃ body, heredocLine indent line = body ++ ['\n'] ∧ '\n' ∉ body ∧ afterEnd? body = none ∧
      dropIndent indent body = escapeLine (trimEnd line) := by
  rw [heredocLine]
  by_cases hempty : (escapeLine (trimEnd line)).isEmpty
  · refine ⟨[], by simp only [hempty, if_true], List.not_mem_nil, rfl, ?_⟩
    rw [List.isEmpty_iff.mp hempty]
    cases indent <;> rfl
  · refine ⟨_, by simp only [hempty]; rfl, ?_, ?_, dropIndent_replicate_append indent _⟩
    · intro hmem
      rcases List.mem_append.mp hmem with hspace | hescaped
      · exact absurd (List.eq_of_mem_replicate hspace) (by decide)
      · exact newline_not_mem_escapeLine (fun htrim => hline (mem_of_mem_trimEnd htrim)) hescaped
    · rw [afterEnd?_replicate_append, afterEnd?_escapeLine]

theorem cutAtEnd_of_end (indent : Nat) (rest : List Char) :
    cutAtEnd (splitAtChar '\n' (List.replicate indent ' ' ++ tripleQuote ++ rest)) =
      some ([], rest) := by
  have hfront : '\n' ∉ List.replicate indent ' ' ++ tripleQuote := by simp [tripleQuote]
  obtain ⟨piece, pieces, hrest, hsplit⟩ := exists_splitAtChar_append hfront rest
  have hend : afterEnd? (List.replicate indent ' ' ++ tripleQuote ++ piece) = some piece := by
    rw [List.append_assoc, afterEnd?_replicate_append]
    rfl
  rw [hsplit, cutAtEnd, hend]
  show some ([], ['\n'].intercalate (piece :: pieces)) = _
  rw [← hrest, splitAtChar_eq_splitOn, List.intercalate_splitOn]

theorem cutAtEnd_heredoc (indent : Nat) (rest : List Char) {textLines : List (List Char)}
    (hlines : ∀ line ∈ textLines, '\n' ∉ line) :
    ∃ body, cutAtEnd (splitAtChar '\n' (textLines.flatMap (heredocLine indent) ++
        (List.replicate indent ' ' ++ tripleQuote ++ rest))) = some (body, rest) ∧
      body.map (dropIndent indent) = textLines.map fun line => escapeLine (trimEnd line) := by
  induction textLines with
  | nil => exact ⟨[], cutAtEnd_of_end indent rest, rfl⟩
  | cons line textLines ih =>
      rw [List.forall_mem_cons] at hlines
      obtain ⟨first, hfirst, hnewline, hend, hdrop⟩ := exists_heredocLine_eq indent hlines.1
      obtain ⟨body, hbody, hmap⟩ := ih hlines.2
      refine ⟨first :: body, ?_, by rw [List.map_cons, List.map_cons, hdrop, hmap]⟩
      rw [List.flatMap_cons, hfirst, List.append_assoc, List.append_assoc, List.singleton_append,
        splitAtChar_append_cons hnewline, cutAtEnd, hend, hbody]
      rfl

theorem unescape_flatMap_escapeLine (textLines : List (List Char)) :
    unescape (textLines.flatMap fun line => escapeLine line ++ ['\n']) =
      .ok (textLines.flatMap fun line => line ++ ['\n']) := by
  induction textLines with
  | nil => rfl
  | cons line textLines ih =>
      rw [List.flatMap_cons, List.append_assoc, List.singleton_append,
        unescape_escapeLine_append ih, List.flatMap_cons, List.append_assoc, List.singleton_append]

end Body

/-- A heredoc is read to its end and no further, and stands for the lines of its text without the
white space at their ends. -/
theorem readHeredoc_heredoc_append (text : String) (indent : Nat) (rest : List Char) :
    readHeredoc indent ((heredoc text indent).toList ++ rest) =
      .ok ((lines (trimEnd text.toList)).flatMap (fun line => trimEnd line ++ ['\n']), rest) := by
  have hlines : ∀ line ∈ lines (trimEnd text.toList), '\n' ∉ line :=
    fun line => newline_not_mem_of_mem_lines
  obtain ⟨body, hcut, hmap⟩ := cutAtEnd_heredoc indent rest hlines
  have hbody : body.flatMap (fun line => dropIndent indent line ++ ['\n']) =
      ((lines (trimEnd text.toList)).map trimEnd).flatMap
        fun line => escapeLine line ++ ['\n'] := by
    calc body.flatMap (fun line => dropIndent indent line ++ ['\n'])
        = (body.map (dropIndent indent)).flatMap (· ++ ['\n']) := by rw [List.flatMap_map]
      _ = _ := by rw [hmap, List.flatMap_map, List.flatMap_map]
  have htext : (heredoc text indent).toList ++ rest = '"' :: '"' :: '"' :: '\n' ::
      ((lines (trimEnd text.toList)).flatMap (heredocLine indent) ++
        (List.replicate indent ' ' ++ tripleQuote ++ rest)) := by
    rw [heredoc, String.toList_ofList, heredocChars]
    simp [tripleQuote]
  rw [htext, readHeredoc, hcut]
  show (unescape _).map _ = _
  rw [hbody, unescape_flatMap_escapeLine, List.flatMap_map]
  rfl

end Lexgen.Emit
