import Mathlib.Data.List.Induction
import Lexgen.Corpus
import Lexgen.Proofs.Names.QualifiedReference
import Lexgen.Proofs.OrderedMembers
import Lexgen.Proofs.Text.ByteOrder

namespace Lexgen.Corpus

open Lexgen.Text

variable {c : Corpus} {l : Lexicon} {nsid reference : String}

/-- Before another pair in the order of bytes, the NSIDs first. -/
def Precedes (p q : String × String) : Prop :=
  encode p.1 < encode q.1 ∨ p.1 = q.1 ∧ encode p.2 < encode q.2

/-- Lexicons stand under their own NSIDs, in ascending order. -/
structure Ordered (c : Corpus) : Prop where
  keys : (c.lexicons.map Prod.fst).Pairwise (· < ·)
  own : ∀ entry ∈ c.lexicons, entry.2.nsid = entry.1

theorem Ordered.insert (hordered : c.Ordered) (l : Lexicon) : (c.insert l).Ordered where
  keys := by
    rw [Corpus.insert, map_fst_setMember]
    exact Schema.pairwise_insertSorted l.nsid hordered.keys
  own := by
    intro entry hentry
    rcases mem_setMember hentry with rfl | hentry
    · rfl
    · exact hordered.own entry hentry

theorem get?_insert : (c.insert l).get? nsid = if nsid = l.nsid then some l else c.get? nsid :=
  findMember?_setMember

theorem ofList_concat (ls : List Lexicon) (l : Lexicon) :
    ofList (ls ++ [l]) = (ofList ls).insert l := by
  simp [ofList]

theorem ordered_ofList (ls : List Lexicon) : (ofList ls).Ordered := by
  induction ls using List.reverseRecOn with
  | nil => exact ⟨List.Pairwise.nil, by simp [ofList]⟩
  | append_singleton ls l ih =>
      rw [ofList_concat]
      exact ih.insert l

theorem get?_ofList (ls : List Lexicon) (nsid : String) :
    (ofList ls).get? nsid = (ls.filter fun l => l.nsid = nsid).getLast? := by
  induction ls using List.reverseRecOn with
  | nil => rfl
  | append_singleton ls l ih =>
      rw [ofList_concat, get?_insert, ih, List.filter_append]
      by_cases hnsid : l.nsid = nsid
      · simp [hnsid]
      · simp [hnsid, Ne.symm hnsid]

theorem mem_of_get?_ofList {ls : List Lexicon} (hget : (ofList ls).get? nsid = some l) :
    l ∈ ls ∧ l.nsid = nsid := by
  rw [get?_ofList] at hget
  simpa using List.mem_filter.mp (List.mem_of_getLast? hget)

theorem Ordered.mem_lexicons_iff (hordered : c.Ordered) :
    (nsid, l) ∈ c.lexicons ↔ c.get? nsid = some l :=
  (findMember?_eq_some_iff hordered.keys).symm

theorem Ordered.mem_unresolved_iff (hordered : c.Ordered) :
    (nsid, reference) ∈ c.unresolved ↔
      ∃ l, c.get? nsid = some l ∧ l.nsid = nsid ∧ reference ∈ l.references ∧
        c.holds reference = false := by
  simp only [unresolved, List.mem_flatMap, List.mem_map, List.mem_filter, Bool.not_eq_true']
  constructor
  · rintro ⟨⟨nsid', l⟩, hentry, reference', ⟨hreference, hmissing⟩, heq⟩
    obtain ⟨rfl, rfl⟩ := Prod.mk.inj heq
    exact ⟨l, hordered.mem_lexicons_iff.mp hentry, hordered.own _ hentry, hreference, hmissing⟩
  · rintro ⟨l, hget, -, hreference, hmissing⟩
    exact ⟨(nsid, l), hordered.mem_lexicons_iff.mpr hget, reference, ⟨hreference, hmissing⟩, rfl⟩

theorem Ordered.pairwise_unresolved (hordered : c.Ordered)
    (hreferences : ∀ entry ∈ c.lexicons, entry.2.references.Pairwise (· < ·)) :
    c.unresolved.Pairwise Precedes := by
  refine List.pairwise_flatMap.mpr ⟨?_, ?_⟩
  · rintro ⟨nsid, l⟩ hentry
    refine List.pairwise_map.mpr ?_
    refine ((hreferences _ hentry).filter _).imp ?_
    intro reference reference' hless
    exact .inr ⟨rfl, encode_lt_encode_iff.mpr hless⟩
  · refine (List.pairwise_map.mp hordered.keys).imp ?_
    intro entry entry' hless p hp q hq
    obtain ⟨_, -, rfl⟩ := List.mem_map.mp hp
    obtain ⟨_, -, rfl⟩ := List.mem_map.mp hq
    exact .inl (encode_lt_encode_iff.mpr hless)

theorem holds_eq_false_iff :
    c.holds reference = false ↔
      ¬ ∃ l, c.get? (Reference.parse "" reference).nsid = some l ∧
        (Reference.parse "" reference).key ∈ l.keys := by
  rw [holds, resolve?]
  cases c.get? (Reference.parse "" reference).nsid with
  | none => simp
  | some l => by_cases hkey : (Reference.parse "" reference).key ∈ l.keys <;>
      simp [Lexicon.hasKey, hkey]

theorem pairwise_references (doc : Document) :
    (Lexicon.ofDocument doc).1.references.Pairwise (· < ·) :=
  Schema.pairwise_sortedSet _

/-- What a corpus answers after compiled lexicons were inserted, in any order: the lexicon that came
last under each NSID, and the references without a target in ascending order of bytes, each once. A
target is missing when no lexicon has the NSID and the key that the reference names in its own
document. -/
theorem unresolved_ofList (ls : List Lexicon)
    (hcompiled : ∀ l ∈ ls, ∃ doc, (Lexicon.ofDocument doc).1 = l) :
    (∀ nsid, (ofList ls).get? nsid = (ls.filter fun l => l.nsid = nsid).getLast?) ∧
    (ofList ls).unresolved.Pairwise Precedes ∧
    (∀ nsid reference, (nsid, reference) ∈ (ofList ls).unresolved ↔
      ∃ l, (ofList ls).get? nsid = some l ∧ l.nsid = nsid ∧ reference ∈ l.references ∧
        (ofList ls).holds reference = false) ∧
    ∀ nsid text, '#' ∉ nsid.toList →
      ((ofList ls).holds (Reference.parse nsid text).qualified = false ↔
        ¬ ∃ target, (ofList ls).get? (Reference.parse nsid text).nsid = some target ∧
          (Reference.parse nsid text).key ∈ target.keys) := by
  have hordered := ordered_ofList ls
  refine ⟨get?_ofList ls, ?_, fun _ _ => hordered.mem_unresolved_iff, ?_⟩
  · apply hordered.pairwise_unresolved
    rintro ⟨nsid, l⟩ hentry
    have hheld := (mem_of_get?_ofList (hordered.mem_lexicons_iff.mp hentry)).1
    obtain ⟨doc, rfl⟩ := hcompiled l hheld
    exact pairwise_references doc
  · intro nsid text hnsid
    rw [holds_eq_false_iff, Reference.parse_qualified hnsid]

section Replaced

/-- A document of one entry that refers to `target`. -/
def pointer (id target : String) : Document :=
  { id, defs := [("main", .object [("ref", .string target), ("type", .string "ref")])] }

/-- The first document is replaced by the third. -/
def pointers : List Lexicon :=
  [(Lexicon.ofDocument (pointer "com.example.b" "com.example.gone")).1,
    (Lexicon.ofDocument (pointer "com.example.a" "com.example.b##")).1,
    (Lexicon.ofDocument (pointer "com.example.b" "#")).1]

theorem unresolved_ofList_pointers :
    (∀ l ∈ pointers, ∃ doc, (Lexicon.ofDocument doc).1 = l) ∧
      (ofList pointers).unresolved.Pairwise Precedes ∧
      (ofList pointers).holds (Reference.parse "com.example.b" "#").qualified = true ∧
      ("com.example.a", "com.example.b##") ∈ (ofList pointers).unresolved := by
  have hcompiled : ∀ l ∈ pointers, ∃ doc, (Lexicon.ofDocument doc).1 = l := by
    simp [pointers]
  obtain ⟨-, hordered, hmem, hmissing⟩ := unresolved_ofList pointers hcompiled
  refine ⟨hcompiled, hordered, ?_, (hmem _ _).mpr ⟨_, rfl, rfl, by decide +kernel, ?_⟩⟩
  · exact eq_true_of_ne_false fun hfalse =>
      (hmissing "com.example.b" "#" (by decide)).mp hfalse ⟨_, rfl, by decide +kernel⟩
  · decide +kernel

end Replaced

end Lexgen.Corpus
