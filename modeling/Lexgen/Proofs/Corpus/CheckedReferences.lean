import Lexgen.Proofs.Corpus.Unresolved

namespace Lexgen.Corpus

open Lexgen.Schema

variable {c : Corpus} {ls : List Lexicon} {l : Lexicon} {enclosing reference text key : String}

theorem resolve?_eq_some_iff : c.resolve? reference = some (l, key) ↔
    c.get? (Reference.parse "" reference).nsid = some l ∧ key ∈ l.keys ∧
      (Reference.parse "" reference).key = key := by
  rw [resolve?]
  cases hget : c.get? (Reference.parse "" reference).nsid with
  | none => simp
  | some held =>
      by_cases hkey : (Reference.parse "" reference).key ∈ held.keys
      · simp only [Lexicon.hasKey, List.contains_iff_mem, hkey, if_true, Option.some.injEq,
          Prod.mk.injEq]
        constructor
        · rintro ⟨rfl, rfl⟩
          exact ⟨rfl, hkey, rfl⟩
        · rintro ⟨rfl, -, heq⟩
          exact ⟨rfl, heq⟩
      · simp only [Lexicon.hasKey, List.contains_iff_mem, hkey, if_false, reduceCtorEq, false_iff]
        rintro ⟨heq, hmem, rfl⟩
        exact hkey (Option.some.inj heq ▸ hmem)

theorem resolve?_qualified_iff (henclosing : '#' ∉ enclosing.toList) :
    (ofList ls).resolve? (Reference.parse enclosing text).qualified = some (l, key) ↔
      (ofList ls).get? l.nsid = some l ∧ key ∈ l.keys ∧
        Reference.parse enclosing text = ⟨l.nsid, key⟩ := by
  rw [resolve?_eq_some_iff, Reference.parse_qualified henclosing]
  constructor
  · rintro ⟨hget, hkey, rfl⟩
    have hnsid := (mem_of_get?_ofList hget).2
    rw [hnsid]
    exact ⟨hget, hkey, rfl⟩
  · rintro ⟨hget, hkey, hparse⟩
    rw [hparse]
    exact ⟨hget, hkey, rfl⟩

theorem ofNode_of_ref {node : Json} (hkind : Kind.of? node = some .ref)
    (htext : node.getString? "ref" = some text) :
    NativeType.ofNode enclosing node = .ref (Reference.parse enclosing text).moduleName := by
  rw [NativeType.ofNode, NativeType.within]
  simp [hkind, htext]

/-- Where the check finds a definition, the reference names that definition, and the type of a node
that holds the reference is the definition's module. -/
theorem checked_and_emitted_agree (ls : List Lexicon) (henclosing : '#' ∉ enclosing.toList)
    (hresolved :
      (ofList ls).resolve? (Reference.parse enclosing text).qualified = some (l, key)) :
    (Reference.parse enclosing text).moduleName = l.moduleName key ∧
    Reference.parse enclosing text = ⟨l.nsid, key⟩ ∧
    ∀ node, Kind.of? node = some .ref → node.getString? "ref" = some text →
      NativeType.ofNode enclosing node = .ref (l.moduleName key) := by
  obtain ⟨-, -, hparse⟩ := (resolve?_qualified_iff henclosing).mp hresolved
  have hmodule : (Reference.parse enclosing text).moduleName = l.moduleName key := by
    rw [hparse]
    rfl
  refine ⟨hmodule, hparse, fun node hkind htext => ?_⟩
  rw [ofNode_of_ref hkind htext, hmodule]

section Sharps

/-- A document with a sharp in one of its keys. -/
def sharps : Document :=
  { id := "com.example.my-defs", defs := [
      ("a#b", .object [("type", .string "object")]),
      ("main", .object [("type", .string "object")])] }

/-- Only the first sharp cuts a reference, and nothing after it means `main`. -/
theorem checked_and_emitted_agree_sharps :
    ('#' ∉ "com.example.post".toList ∧
      (ofList [(Lexicon.ofDocument sharps).1]).resolve?
        (Reference.parse "com.example.post" "com.example.my-defs#a#b").qualified =
          some ((Lexicon.ofDocument sharps).1, "a#b") ∧
      NativeType.ofNode "com.example.post"
        (.object [("ref", .string "com.example.my-defs#a#b"), ("type", .string "ref")]) =
          .ref "Com.Example.MyDefs.A#b") ∧
    (ofList [(Lexicon.ofDocument sharps).1]).resolve?
        (Reference.parse "com.example.my-defs" "#").qualified =
          some ((Lexicon.ofDocument sharps).1, "main") ∧
      Reference.parse "com.example.my-defs" "#" = ⟨"com.example.my-defs", "main"⟩ := by
  have hsharps : (ofList [(Lexicon.ofDocument sharps).1]).resolve?
      (Reference.parse "com.example.post" "com.example.my-defs#a#b").qualified =
        some ((Lexicon.ofDocument sharps).1, "a#b") :=
    (resolve?_qualified_iff (by decide)).mpr ⟨rfl, by decide +kernel, by decide +kernel⟩
  have hmain : (ofList [(Lexicon.ofDocument sharps).1]).resolve?
      (Reference.parse "com.example.my-defs" "#").qualified =
        some ((Lexicon.ofDocument sharps).1, "main") :=
    (resolve?_qualified_iff (by decide)).mpr ⟨rfl, by decide +kernel, by decide +kernel⟩
  obtain ⟨-, -, htype⟩ := checked_and_emitted_agree _ (by decide) hsharps
  have hmodule : (Lexicon.ofDocument sharps).1.moduleName "a#b" = "Com.Example.MyDefs.A#b" := by
    decide +kernel
  rw [hmodule] at htype
  exact ⟨⟨by decide, hsharps, htype _ (by decide +kernel) (by decide +kernel)⟩, hmain,
    (checked_and_emitted_agree _ (by decide) hmain).2.1⟩

end Sharps

end Lexgen.Corpus
