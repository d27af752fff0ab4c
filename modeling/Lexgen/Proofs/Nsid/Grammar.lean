import Lexgen.Nsid
import Lexgen.Proofs.Text.PatternLanguage
import Lexgen.Proofs.Text.Segments

/-!
NSIDs by their segments. The grammar reads a text from left to right and may cut it in many ways,
but a segment holds no dot, so only the cut at the dots can match. What is left is a rule for each
segment by itself.
-/

namespace Lexgen.Nsid

open Lexgen.Text

def firstSegment : Pattern := .seq (.one isLetter) domainTail

def domainSegment : Pattern := .seq (.one isLetterOrDigit) domainTail

def nameSegment : Pattern := .seq (.one isLetter) (.upTo 62 (.one isLetterOrDigit))

theorem matches_dotted_iff {p : Pattern} {cs : List Char} :
    Pattern.Matches (.seq (.one (· == '.')) p) cs ↔
      ∃ rest, Pattern.Matches p rest ∧ cs = '.' :: rest := by
  rw [Pattern.matches_one_seq_iff]
  constructor
  · rintro ⟨c, rest, rfl, hc, hrest⟩
    exact ⟨rest, hrest, by rw [beq_iff_eq.mp hc]⟩
  · rintro ⟨rest, hrest, rfl⟩
    exact ⟨'.', rest, rfl, rfl, hrest⟩

theorem matches_dotted_atLeastOnce_iff {p : Pattern} {cs : List Char} :
    Pattern.Matches (.atLeastOnce (.seq (.one (· == '.')) p)) cs ↔
      ∃ parts : List (List Char), parts ≠ [] ∧ (∀ part ∈ parts, Pattern.Matches p part) ∧
        (parts.map ('.' :: ·)).flatten = cs := by
  rw [Pattern.matches_atLeastOnce_iff]
  constructor
  · rintro ⟨dotted, hne, hdotted, rfl⟩
    have htail : ∀ part ∈ dotted, Pattern.Matches p part.tail ∧ '.' :: part.tail = part := by
      intro part hpart
      obtain ⟨rest, hrest, rfl⟩ := matches_dotted_iff.mp (hdotted part hpart)
      exact ⟨hrest, rfl⟩
    refine ⟨dotted.map List.tail, by simpa using hne, ?_, ?_⟩
    · rintro _ hmem
      obtain ⟨part, hpart, rfl⟩ := List.mem_map.mp hmem
      exact (htail part hpart).1
    · rw [List.map_map]
      refine congrArg List.flatten ((List.map_congr_left fun part hpart => ?_).trans
        (List.map_id dotted))
      exact (htail part hpart).2
  · rintro ⟨parts, hne, hparts, rfl⟩
    refine ⟨parts.map ('.' :: ·), by simpa using hne, ?_, rfl⟩
    rintro _ hmem
    obtain ⟨part, hpart, rfl⟩ := List.mem_map.mp hmem
    exact matches_dotted_iff.mpr ⟨part, hparts part hpart, rfl⟩

theorem grammar_matches_iff {cs : List Char} :
    Pattern.Matches grammar cs ↔ ∃ first middle name,
      Pattern.Matches firstSegment first ∧ middle ≠ [] ∧
      (∀ part ∈ middle, Pattern.Matches domainSegment part) ∧ Pattern.Matches nameSegment name ∧
      cs = first ++ ((middle ++ [name]).map ('.' :: ·)).flatten := by
  rw [grammar, Pattern.matches_seq_iff]
  simp only [Pattern.matches_seq_iff (p := .atLeastOnce _), matches_dotted_iff,
    matches_dotted_atLeastOnce_iff]
  constructor
  · rintro ⟨first, _, hfirst, ⟨_, _, ⟨middle, hne, hmiddle, rfl⟩, ⟨name, hname, rfl⟩, rfl⟩, rfl⟩
    exact ⟨first, middle, name, hfirst, hne, hmiddle, hname, by simp⟩
  · rintro ⟨first, middle, name, hfirst, hne, hmiddle, hname, rfl⟩
    exact ⟨first, _, hfirst, ⟨_, _, ⟨middle, hne, hmiddle, rfl⟩, ⟨name, hname, rfl⟩, rfl⟩, by simp⟩

/-- One to 63 letters, digits and hyphens of ASCII. -/
structure IsSegment (cs : List Char) : Prop where
  length_pos : 1 ≤ cs.length
  length_le : cs.length ≤ 63
  chars : ∀ c ∈ cs, c.isAlpha ∨ c.isDigit ∨ c = '-'

def StartsIn (accepts : Char → Bool) (cs : List Char) : Prop := ∃ c ∈ cs.head?, accepts c

def EndsIn (accepts : Char → Bool) (cs : List Char) : Prop := ∃ c ∈ cs.getLast?, accepts c

/-- The pieces of an NSID: three segments at least, of which the last is its name. -/
structure AreNsidPieces (pieces : List (List Char)) : Prop where
  length_ge : 3 ≤ pieces.length
  segments : ∀ piece ∈ pieces, IsSegment piece
  first : ∀ piece ∈ pieces.head?, StartsIn Char.isAlpha piece ∧ EndsIn Char.isAlphanum piece
  middle : ∀ piece ∈ pieces.tail.dropLast,
    StartsIn Char.isAlphanum piece ∧ EndsIn Char.isAlphanum piece
  name : ∀ piece ∈ pieces.getLast?, StartsIn Char.isAlpha piece ∧ '-' ∉ piece

section Segments

variable {cs : List Char}

theorem isInner_of_isLetterOrDigit {c : Char} (hc : isLetterOrDigit c = true) :
    isInner c = true := by
  rw [isLetterOrDigit] at hc
  simp [isInner, hc]

theorem isLetterOrDigit_of_isLetter {c : Char} (hc : isLetter c = true) :
    isLetterOrDigit c = true := by
  rw [isLetter] at hc
  simp [isLetterOrDigit, Char.isAlphanum, hc]

theorem isInner_iff {c : Char} : isInner c = true ↔ c.isAlpha ∨ c.isDigit ∨ c = '-' := by
  simp [isInner, Char.isAlphanum, or_assoc]

theorem matches_domainTail_iff : Pattern.Matches domainTail cs ↔
    cs = [] ∨ ∃ inner last, cs = inner ++ [last] ∧ inner.length ≤ 61 ∧
      (∀ c ∈ inner, isInner c = true) ∧ isLetterOrDigit last = true := by
  rw [domainTail, Pattern.optional, Pattern.matches_either_iff, Pattern.matches_nothing_iff,
    Pattern.matches_seq_iff]
  refine or_congr Iff.rfl ⟨?_, ?_⟩
  · rintro ⟨inner, _, hinner, hend, rfl⟩
    obtain ⟨last, hlast, rfl⟩ := Pattern.matches_one_iff.mp hend
    obtain ⟨hlength, hchars⟩ := Pattern.matches_upTo_one_iff.mp hinner
    exact ⟨inner, last, rfl, hlength, hchars, hlast⟩
  · rintro ⟨inner, last, rfl, hlength, hchars, hlast⟩
    exact ⟨inner, [last], Pattern.matches_upTo_one_iff.mpr ⟨hlength, hchars⟩, .one hlast, rfl⟩

theorem matches_domain_iff {accepts : Char → Bool}
    (haccepts : ∀ c, accepts c = true → isLetterOrDigit c = true) :
    Pattern.Matches (.seq (.one accepts) domainTail) cs ↔
      IsSegment cs ∧ StartsIn accepts cs ∧ EndsIn Char.isAlphanum cs := by
  rw [Pattern.matches_one_seq_iff]
  constructor
  · rintro ⟨first, tail, rfl, hfirst, htail⟩
    have hinner : isInner first = true := isInner_of_isLetterOrDigit (haccepts first hfirst)
    rcases matches_domainTail_iff.mp htail with rfl | ⟨inner, last, rfl, hlength, hchars, hlast⟩
    · refine ⟨⟨by simp, by simp, ?_⟩, ⟨first, rfl, hfirst⟩, first, rfl, haccepts first hfirst⟩
      simpa using isInner_iff.mp hinner
    · have hbound : (first :: (inner ++ [last])).length ≤ 63 := by
        rw [List.length_cons, List.length_append, List.length_singleton]
        omega
      refine ⟨⟨by simp, hbound, ?_⟩, ⟨first, rfl, hfirst⟩, last, ?_, hlast⟩
      · simp only [← isInner_iff]
        rw [List.forall_mem_cons, List.forall_mem_append, List.forall_mem_singleton]
        exact ⟨hinner, hchars, isInner_of_isLetterOrDigit hlast⟩
      · rw [← List.cons_append]
        exact List.getLast?_concat
  · rintro ⟨hsegment, ⟨first, hhead, hfirst⟩, last, hlast, hend⟩
    obtain ⟨tail, rfl⟩ := List.head?_eq_some_iff.mp hhead
    refine ⟨first, tail, rfl, hfirst, matches_domainTail_iff.mpr ?_⟩
    -- a segment of one character is its own first and last
    rcases List.eq_nil_or_concat tail with rfl | ⟨inner, last', htail⟩
    · exact .inl rfl
    · rw [List.concat_eq_append] at htail
      subst htail
      rw [← List.cons_append, List.getLast?_concat] at hlast
      obtain rfl := Option.some.inj hlast
      have hbound := hsegment.length_le
      rw [List.length_cons, List.length_append, List.length_singleton] at hbound
      refine .inr ⟨inner, last', rfl, by omega, ?_, hend⟩
      intro c hc
      exact isInner_iff.mpr (hsegment.chars c (by simp [hc]))

theorem matches_nameSegment_iff : Pattern.Matches nameSegment cs ↔
    IsSegment cs ∧ StartsIn Char.isAlpha cs ∧ '-' ∉ cs := by
  rw [nameSegment, Pattern.matches_one_seq_iff]
  constructor
  · rintro ⟨first, rest, rfl, hfirst, hrest⟩
    obtain ⟨hlength, hchars⟩ := Pattern.matches_upTo_one_iff.mp hrest
    have hall : ∀ c ∈ first :: rest, isLetterOrDigit c = true :=
      List.forall_mem_cons.mpr ⟨isLetterOrDigit_of_isLetter hfirst, hchars⟩
    refine ⟨⟨by simp, Nat.succ_le_succ hlength, ?_⟩, ⟨first, rfl, hfirst⟩, ?_⟩
    · intro c hc
      exact isInner_iff.mp (isInner_of_isLetterOrDigit (hall c hc))
    · intro hhyphen
      exact absurd (hall '-' hhyphen) (by decide)
  · rintro ⟨hsegment, ⟨first, hhead, hfirst⟩, hhyphen⟩
    obtain ⟨rest, rfl⟩ := List.head?_eq_some_iff.mp hhead
    refine ⟨first, rest, rfl, hfirst, Pattern.matches_upTo_one_iff.mpr ⟨?_, ?_⟩⟩
    · exact Nat.le_of_succ_le_succ hsegment.length_le
    · intro c hc
      have hne : c ≠ '-' := fun heq => hhyphen (heq ▸ List.mem_cons_of_mem _ hc)
      have hchar := hsegment.chars c (List.mem_cons_of_mem _ hc)
      simpa [isLetterOrDigit, Char.isAlphanum, hne] using hchar

theorem IsSegment.dot_not_mem (hsegment : IsSegment cs) : '.' ∉ cs :=
  fun hmem => absurd (hsegment.chars '.' hmem) (by decide)

end Segments

section Pieces

variable {cs first name : List Char} {middle : List (List Char)}

theorem areNsidPieces_iff : AreNsidPieces (first :: (middle ++ [name])) ↔
    Pattern.Matches firstSegment first ∧ middle ≠ [] ∧
      (∀ piece ∈ middle, Pattern.Matches domainSegment piece) ∧
      Pattern.Matches nameSegment name := by
  rw [firstSegment, domainSegment, matches_domain_iff fun _ => isLetterOrDigit_of_isLetter,
    matches_nameSegment_iff]
  simp only [matches_domain_iff fun _ => id]
  have hlast : (first :: (middle ++ [name])).getLast? = some name := by
    rw [← List.cons_append, List.getLast?_concat]
  constructor
  · intro hpieces
    have hsegments := hpieces.segments
    have hmiddle := hpieces.middle
    rw [List.forall_mem_cons, List.forall_mem_append, List.forall_mem_singleton] at hsegments
    rw [List.tail_cons, List.dropLast_concat] at hmiddle
    refine ⟨⟨hsegments.1, hpieces.first first rfl⟩, ?_, ?_, hsegments.2.2, hpieces.name name hlast⟩
    · rintro rfl
      exact absurd hpieces.length_ge (by simp)
    · intro piece hpiece
      exact ⟨hsegments.2.1 piece hpiece, hmiddle piece hpiece⟩
  · rintro ⟨⟨hfirst, hedges⟩, hne, hmiddle, hname, hstart⟩
    have hlength : 0 < middle.length := List.length_pos_iff.mpr hne
    refine ⟨by simp; omega, ?_, ?_, ?_, ?_⟩
    · rw [List.forall_mem_cons, List.forall_mem_append, List.forall_mem_singleton]
      exact ⟨hfirst, fun piece hpiece => (hmiddle piece hpiece).1, hname⟩
    · rintro piece hpiece
      obtain rfl := Option.some.inj hpiece
      exact hedges
    · rw [List.tail_cons, List.dropLast_concat]
      exact fun piece hpiece => (hmiddle piece hpiece).2
    · rw [hlast]
      rintro piece hpiece
      obtain rfl := Option.some.inj hpiece
      exact hstart

theorem exists_pieces_of_length {pieces : List (List Char)} (hlength : 3 ≤ pieces.length) :
    ∃ first middle name, pieces = first :: (middle ++ [name]) := by
  have hpos : 0 < pieces.length := Nat.lt_of_lt_of_le (by decide) hlength
  obtain ⟨first, rest, rfl⟩ := List.exists_cons_of_length_pos hpos
  rcases List.eq_nil_or_concat rest with rfl | ⟨middle, name, rfl⟩
  · exact absurd hlength (by simp)
  · exact ⟨first, middle, name, by rw [List.concat_eq_append]⟩

/-- Of all the ways to read a text by the grammar, only the cut at the dots can match. -/
theorem grammar_matches_iff_pieces :
    Pattern.Matches grammar cs ↔ AreNsidPieces (cs.splitOn '.') := by
  rw [grammar_matches_iff]
  constructor
  · rintro ⟨first, middle, name, hfirst, hne, hmiddle, hname, rfl⟩
    have hpieces := areNsidPieces_iff.mpr ⟨hfirst, hne, hmiddle, hname⟩
    -- no part of the match holds a dot, so the cut at the dots gives back these parts
    have hdots : ∀ piece ∈ first :: (middle ++ [name]), '.' ∉ piece :=
      fun piece hpiece => (hpieces.segments piece hpiece).dot_not_mem
    rw [List.forall_mem_cons] at hdots
    rwa [splitOn_append_flatten hdots.1 hdots.2]
  · intro hpieces
    obtain ⟨first, middle, name, hsplit⟩ := exists_pieces_of_length hpieces.length_ge
    rw [hsplit] at hpieces
    obtain ⟨hfirst, hne, hmiddle, hname⟩ := areNsidPieces_iff.mp hpieces
    exact ⟨first, middle, name, hfirst, hne, hmiddle, hname, eq_append_flatten hsplit⟩

end Pieces

theorem validate_cases (s : String) :
    (maxLength < s.utf8ByteSize ∧ validate s = .error (.tooLong s.utf8ByteSize)) ∨
      (s.utf8ByteSize ≤ maxLength ∧ AreNsidPieces (s.toList.splitOn '.') ∧ validate s = .ok ()) ∨
      (s.utf8ByteSize ≤ maxLength ∧ ¬ AreNsidPieces (s.toList.splitOn '.') ∧
        validate s = .error (.invalid s)) := by
  rw [validate, ← grammar_matches_iff_pieces, ← Pattern.matchesAll_iff]
  by_cases hlong : maxLength < s.utf8ByteSize
  · rw [if_pos hlong]
    exact .inl ⟨hlong, rfl⟩
  · rw [if_neg hlong]
    right
    by_cases hmatches : grammar.matchesAll s.toList = true
    · rw [if_pos hmatches]
      exact .inl ⟨Nat.not_lt.mp hlong, hmatches, rfl⟩
    · rw [if_neg hmatches]
      exact .inr ⟨Nat.not_lt.mp hlong, hmatches, rfl⟩

/-- NSIDs are accepted, and nothing else. A text that is too long is refused for its length, in
bytes, whatever its segments are; any other is handed back. -/
theorem validate_exact (s : String) :
    (validate s = .ok () ↔ s.utf8ByteSize ≤ 317 ∧ AreNsidPieces (splitAtChar '.' s.toList)) ∧
    (∀ n, validate s = .error (.tooLong n) ↔ 317 < s.utf8ByteSize ∧ n = s.utf8ByteSize) ∧
    ∀ t, validate s = .error (.invalid t) ↔
      s.utf8ByteSize ≤ 317 ∧ ¬ AreNsidPieces (splitAtChar '.' s.toList) ∧ t = s := by
  rw [splitAtChar_eq_splitOn]
  rcases validate_cases s with ⟨hlong, hvalidate⟩ | ⟨hfits, hpieces, hvalidate⟩ |
    ⟨hfits, hpieces, hvalidate⟩
  · have hover : ¬ s.utf8ByteSize ≤ 317 := Nat.not_le.mpr hlong
    rw [hvalidate]
    refine ⟨by simp [hover], fun n => ?_, by simp [hover]⟩
    rw [Except.error.injEq, Error.tooLong.injEq, eq_comm]
    exact (and_iff_right hlong).symm
  · have hunder : ¬ 317 < s.utf8ByteSize := Nat.not_lt.mpr hfits
    rw [hvalidate]
    exact ⟨iff_of_true rfl ⟨hfits, hpieces⟩, by simp [hunder], by simp [hpieces]⟩
  · have hunder : ¬ 317 < s.utf8ByteSize := Nat.not_lt.mpr hfits
    rw [hvalidate]
    refine ⟨by simp [hpieces], by simp [hunder], fun t => ?_⟩
    rw [Except.error.injEq, Error.invalid.injEq, eq_comm]
    exact ⟨fun heq => ⟨hfits, hpieces, heq⟩, fun hrefused => hrefused.2.2⟩

end Lexgen.Nsid
