import Lexgen.Proofs.Corpus.Unresolved
import Lexgen.Proofs.Lexicon.EmittedModules
import Lexgen.Proofs.Nsid.Segments

namespace Lexgen

open Lexgen.Schema

/-- The entries of a document that become modules with a type: the objects and the first record. -/
def Document.typeEntries (doc : Document) : List (String × Json) :=
  doc.defs.filter (fun entry => Kind.of? entry.2 = some .object) ++
    (doc.defs.find? fun entry => Kind.of? entry.2 = some .record).toList

namespace Lexicon

/-- The modules in a file that define the type `t`. The module of a call defines other types. -/
def typeModulesIn (l : Lexicon) (runtimeModule : String) (artifact : Artifact) : List String :=
  if artifact = .call then [] else l.modulesIn runtimeModule artifact

def typeModules (l : Lexicon) (runtimeModule : String) : List String :=
  (Artifact.plan l).flatMap (l.typeModulesIn runtimeModule)

theorem typeModules_eq (l : Lexicon) (runtimeModule : String) :
    l.typeModules runtimeModule =
      (l.definitions.structs.map (·.key) ++ l.definitions.record.toList.map (·.key)).map
        l.moduleName := by
  rw [typeModules, flatMap_plan (by simp [typeModulesIn, modulesIn, structFile])
    (by simp [typeModulesIn, modulesIn]) (by simp [typeModulesIn])]
  simp [typeModulesIn, modulesIn, structFile, recordFile, Function.comp_def]

section TypeEntries

theorem structs_addEntry (nsid : String) (ds : Definitions) (key : String) (node : Json) :
    (addEntry nsid ds key node).1.structs.map (·.key) =
      ds.structs.map (·.key) ++ if Kind.of? node = some .object then [key] else [] := by
  rw [addEntry, Definition.ofNode]
  generalize Kind.of? node = kind?
  rcases kind? with _ | kind
  · simp
  · cases kind with
    | object => simp [Definitions.offer, Definition.ofObject]
    | record => cases hrecord : ds.record <;> simp [Definitions.offer, hrecord]
    | query => cases hcall : ds.call <;> simp [Definitions.offer, hcall]
    | procedure => cases hcall : ds.call <;> simp [Definitions.offer, hcall]
    | _ => simp

theorem record_addEntry (nsid : String) (ds : Definitions) (key : String) (node : Json) :
    (addEntry nsid ds key node).1.record.map (·.key) =
      (ds.record.map (·.key)).or (if Kind.of? node = some .record then some key else none) := by
  rw [addEntry, Definition.ofNode]
  generalize Kind.of? node = kind?
  rcases kind? with _ | kind
  · simp
  · cases kind with
    | object => simp [Definitions.offer]
    | record =>
        cases hrecord : ds.record <;> simp [Definitions.offer, hrecord, Definition.ofRecord]
    | query => cases hcall : ds.call <;> simp [Definitions.offer, hcall]
    | procedure => cases hcall : ds.call <;> simp [Definitions.offer, hcall]
    | _ => simp

theorem structs_addEntries (nsid : String) (ds : Definitions) (entries : List (String × Json)) :
    (addEntries nsid ds entries).1.structs.map (·.key) =
      ds.structs.map (·.key) ++
        (entries.filter fun entry => Kind.of? entry.2 = some .object).map Prod.fst := by
  induction entries generalizing ds with
  | nil => simp [addEntries]
  | cons entry rest ih =>
      rw [addEntries, ih, structs_addEntry, List.append_assoc, List.filter_cons]
      by_cases hkind : Kind.of? entry.2 = some .object <;> simp [hkind]

theorem record_addEntries (nsid : String) (ds : Definitions) (entries : List (String × Json)) :
    (addEntries nsid ds entries).1.record.map (·.key) =
      (ds.record.map (·.key)).or
        ((entries.find? fun entry => Kind.of? entry.2 = some .record).map Prod.fst) := by
  induction entries generalizing ds with
  | nil => simp [addEntries]
  | cons entry rest ih =>
      rw [addEntries, ih, record_addEntry, List.find?_cons]
      by_cases hkind : Kind.of? entry.2 = some .record <;> simp [hkind]

theorem definitions_ofDocument (doc : Document) :
    (ofDocument doc).1.definitions = (addEntries doc.id {} doc.defs).1 := rfl

theorem typeModules_ofDocument (doc : Document) (runtimeModule : String) :
    (ofDocument doc).1.typeModules runtimeModule =
      doc.typeEntries.map fun entry => Names.moduleName doc.id entry.1 := by
  have hkeys : (ofDocument doc).1.definitions.structs.map (·.key) ++
      (ofDocument doc).1.definitions.record.toList.map (·.key) =
        doc.typeEntries.map Prod.fst := by
    rw [definitions_ofDocument, ← Option.toList_map, structs_addEntries, record_addEntries,
      Document.typeEntries, List.map_append, ← Option.toList_map]
    simp
  rw [typeModules_eq, hkeys, List.map_map]
  rfl

end TypeEntries

end Lexicon

namespace Corpus

def ofDocuments (docs : List Document) : Corpus :=
  ofList (docs.map fun doc => (Lexicon.ofDocument doc).1)

variable {docs : List Document} {doc : Document} {text : String}

theorem exists_document_of_get?_ofDocuments {nsid : String} {l : Lexicon}
    (hget : (ofDocuments docs).get? nsid = some l) :
    ∃ doc ∈ docs, doc.id = nsid ∧ (Lexicon.ofDocument doc).1 = l := by
  obtain ⟨hmem, hnsid⟩ := mem_of_get?_ofList hget
  obtain ⟨doc, hdoc, rfl⟩ := List.mem_map.mp hmem
  exact ⟨doc, hdoc, hnsid, rfl⟩

/-- The document `target` is held and has the entry that a reference names. -/
structure IsTarget (docs : List Document) (r : Reference) (target : Document) : Prop where
  mem : target ∈ docs
  id : target.id = r.nsid
  held : (ofDocuments docs).get? target.id = some (Lexicon.ofDocument target).1
  key : r.key ∈ target.defs.map Prod.fst

theorem exists_isTarget_of_mem_references (haccepted : Nsid.validate doc.id = .ok ())
    (hheld : (ofDocuments docs).get? doc.id = some (Lexicon.ofDocument doc).1)
    (hresolved : (ofDocuments docs).unresolved = [])
    (hrecorded : (Reference.parse doc.id text).qualified ∈ (Lexicon.ofDocument doc).1.references) :
    ∃ target, IsTarget docs (Reference.parse doc.id text) target := by
  have hholds : (ofDocuments docs).holds (Reference.parse doc.id text).qualified ≠ false := by
    intro hmissing
    have hordered : (ofDocuments docs).Ordered := ordered_ofList _
    have hreported := hordered.mem_unresolved_iff.mpr ⟨_, hheld, rfl, hrecorded, hmissing⟩
    rw [hresolved] at hreported
    exact List.not_mem_nil hreported
  rw [Ne, holds_eq_false_iff, not_not,
    Reference.parse_qualified (Nsid.hash_not_mem_of_validate haccepted)] at hholds
  obtain ⟨l, hget, hkey⟩ := hholds
  obtain ⟨target, htarget, hid, rfl⟩ := exists_document_of_get?_ofDocuments hget
  exact ⟨target, htarget, hid, hid ▸ hget, hkey⟩

/-- What an empty report says about the types in a held document. They refer to the modules of its
resolved references. A reference within `maxDepth` levels of JSON, and any other that is recorded,
names an entry of a held document; and the module is one with a type if that entry is an object or
the first record, which are the entries that such modules are emitted for. -/
theorem referenced_types_exist (docs : List Document) (runtimeModule : String)
    (haccepted : ∀ doc ∈ docs, Nsid.validate doc.id = .ok ())
    (hresolved : (ofDocuments docs).unresolved = []) (doc : Document) (hdoc : doc ∈ docs)
    (hheld : (ofDocuments docs).get? doc.id = some (Lexicon.ofDocument doc).1) :
    (∀ m ∈ (Lexicon.ofDocument doc).1.definitions.modules, ∃ depth text,
      Lexicon.ResolvedAt doc (maxDepth + 1) depth text ∧
        (Reference.parse doc.id text).moduleName = m) ∧
    ∀ depth text, Lexicon.ResolvedAt doc (maxDepth + 1) depth text →
      depth ≤ maxDepth ∨
        (Reference.parse doc.id text).qualified ∈ (Lexicon.ofDocument doc).1.references →
      ∃ target, IsTarget docs (Reference.parse doc.id text) target ∧
        ((Lexicon.ofDocument target).1.typeModules runtimeModule =
          target.typeEntries.map fun entry => Names.moduleName target.id entry.1) ∧
        ((Reference.parse doc.id text).key ∈ target.typeEntries.map Prod.fst →
          (Reference.parse doc.id text).moduleName ∈
            (Lexicon.ofDocument target).1.typeModules runtimeModule) := by
  refine ⟨fun m hm => Lexicon.mem_modules_iff.mp hm, ?_⟩
  intro depth text hat hshallow
  have hrecorded :
      (Reference.parse doc.id text).qualified ∈ (Lexicon.ofDocument doc).1.references := by
    rcases hshallow with hdepth | hrecorded
    · exact Lexicon.mem_references_iff.mpr ⟨depth, hdepth, text, hat.mentionedAt.1, rfl⟩
    · exact hrecorded
  obtain ⟨target, htarget⟩ :=
    exists_isTarget_of_mem_references (haccepted doc hdoc) hheld hresolved hrecorded
  have hmodules := Lexicon.typeModules_ofDocument target runtimeModule
  refine ⟨target, htarget, hmodules, ?_⟩
  intro hkey
  obtain ⟨entry, hentry, hkey⟩ := List.mem_map.mp hkey
  rw [hmodules, Reference.moduleName, ← htarget.id, ← hkey]
  exact List.mem_map_of_mem hentry

section Posts

/-- A reference to `target`. -/
def referenceNode (target : String) : Json :=
  .object [("ref", .string target), ("type", .string "ref")]

def objectOf (properties : List (String × Json)) : Json :=
  .object [("properties", .object properties), ("type", .string "object")]

def recordOf (properties : List (String × Json)) : Json :=
  .object [("record", objectOf properties), ("type", .string "record")]

/-- A record that refers to an object beside it, which refers to the record of another document. -/
def post : Document :=
  { id := "com.example.post", defs := [
      ("embed", objectOf [("quoted", referenceNode "com.example.quote")]),
      ("main", recordOf [("embed", referenceNode "#embed")])] }

def quote : Document := { id := "com.example.quote", defs := [("main", recordOf [])] }

theorem referenced_types_exist_posts :
    (∀ doc ∈ [post, quote], Nsid.validate doc.id = .ok ()) ∧
      (ofDocuments [post, quote]).unresolved = [] ∧
      Lexicon.ResolvedAt post (maxDepth + 1) 2 "com.example.quote" ∧
      ∃ target, IsTarget [post, quote] ⟨"com.example.quote", "main"⟩ target ∧
        "Com.Example.Quote.Main" ∈ (Lexicon.ofDocument target).1.typeModules "Lexicon" := by
  have haccepted : ∀ doc ∈ [post, quote], Nsid.validate doc.id = .ok () := by decide +kernel
  have hresolved : (ofDocuments [post, quote]).unresolved = [] := by decide +kernel
  have hat : Lexicon.ResolvedAt post (maxDepth + 1) 2 "com.example.quote" :=
    ⟨"embed", _, _, List.mem_cons_self, rfl, List.mem_cons_self, by decide +kernel⟩
  obtain ⟨-, htargets⟩ := referenced_types_exist [post, quote] "Lexicon" haccepted hresolved post
    List.mem_cons_self rfl
  obtain ⟨target, htarget, -, htype⟩ := htargets 2 "com.example.quote" hat (.inl (by decide))
  refine ⟨haccepted, hresolved, hat, target, htarget, htype ?_⟩
  rcases List.mem_pair.mp htarget.mem with rfl | rfl
  · exact absurd htarget.id (by decide +kernel)
  · decide +kernel

/-- A document whose object refers to a token beside it. -/
def tagged : Document :=
  { id := "com.example.post", defs := [
      ("main", objectOf [("tag", referenceNode "#tag")]),
      ("tag", .object [("type", .string "token")])] }

theorem tagged_refers_to_no_type :
    Document.ofJson tagged.toJson = .ok tagged ∧ (ofDocuments [tagged]).unresolved = [] ∧
      "Com.Example.Post.Tag" ∈ (Lexicon.ofDocument tagged).1.definitions.modules ∧
      (ofDocuments [tagged]).lexicons.flatMap (fun entry => entry.2.typeModules "Lexicon") =
        ["Com.Example.Post.Main"] ∧
      (ofDocuments [tagged]).lexicons.flatMap (fun entry => entry.2.emittedModules "Lexicon") =
        ["Com.Example.Post.Main"] :=
  ⟨rfl, by decide +kernel, by decide +kernel, by decide +kernel, by decide +kernel⟩

end Posts

end Corpus

end Lexgen
