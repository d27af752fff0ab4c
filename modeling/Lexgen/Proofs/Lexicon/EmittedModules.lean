import Lexgen.Artifact
import Lexgen.Proofs.Lexicon.RecordedReferences
import Lexgen.Proofs.Names.Lookalikes

namespace Lexgen

open Lexgen.Text Lexgen.Emit

namespace Lexicon

/-- The modules in a file of a lexicon. -/
def modulesIn (l : Lexicon) (runtimeModule : String) : Artifact → List String
  | .structs => (l.structFile l.definitions.structs).modules.map (·.moduleName)
  | .schema => l.definitions.record.toList.map fun d => (l.recordFile runtimeModule d).1.moduleName
  | .call =>
    l.definitions.call.toList.map fun call => (l.callFile runtimeModule call.1 call.2).1.moduleName

def emittedModules (l : Lexicon) (runtimeModule : String) : List String :=
  (Artifact.plan l).flatMap (l.modulesIn runtimeModule)

/-- The definitions that a lexicon is emitted as, by their names. -/
def emitted (l : Lexicon) : List Reference := l.definitions.toList.map fun d => ⟨l.nsid, d.key⟩

theorem flatMap_plan {l : Lexicon} {f : Artifact → List String}
    (hstructs : l.definitions.structs = [] → f .structs = [])
    (hschema : l.definitions.record = none → f .schema = [])
    (hcall : l.definitions.call = none → f .call = []) :
    (Artifact.plan l).flatMap f = f .structs ++ f .schema ++ f .call := by
  rw [Artifact.plan, List.flatMap_append, List.flatMap_append]
  congr 2
  · cases hempty : l.definitions.structs <;> simp [hstructs, hempty]
  · cases hnone : l.definitions.record <;> simp [hschema, hnone]
  · cases hnone : l.definitions.call <;> simp [hcall, hnone]

theorem emittedModules_eq (l : Lexicon) (runtimeModule : String) :
    l.emittedModules runtimeModule = l.emitted.map Reference.moduleName := by
  rw [emittedModules, flatMap_plan (by simp [modulesIn, structFile]) (by simp [modulesIn])
    (by simp [modulesIn])]
  simp [modulesIn, structFile, recordFile, callFile, emitted, Definitions.toList, Definition.key,
    Reference.moduleName, moduleName, Function.comp_def]

section Files

theorem infix_unlines {line : String} {lines : List String} (hline : line ∈ lines) :
    (line ++ "\n").toList <:+: (unlines lines).toList := by
  rw [unlines, String.toList_join, List.flatMap_map]
  exact List.infix_of_mem_flatten (List.mem_map_of_mem hline)

theorem mem_intercalate_of_mem {lines separator : List String} {blocks : List (List String)}
    {line : String} (hblock : lines ∈ blocks) (hline : line ∈ lines) :
    line ∈ separator.intercalate blocks := by
  induction blocks with
  | nil => simp at hblock
  | cons block blocks ih =>
      cases blocks with
      | nil => simpa [List.mem_singleton.mp hblock] using hline
      | cons next blocks =>
          rw [List.intercalate_cons_cons, List.mem_append, List.mem_append]
          rcases List.mem_cons.mp hblock with rfl | hblock
          · exact .inl (.inl hline)
          · exact .inr (ih hblock)

/-- The line that a module starts with. -/
def headLine (moduleName : String) : String := "defmodule " ++ moduleName ++ " do"

theorem headLine_mem_structFile {file : StructFile} {m : StructModule} (hm : m ∈ file.modules) :
    (headLine m.moduleName ++ "\n").toList <:+: file.text.toList := by
  refine infix_unlines (List.mem_append_right _ ?_)
  exact mem_intercalate_of_mem (List.mem_map_of_mem hm) (by simp [StructModule.lines, headLine])

theorem headLine_mem_recordFile (file : RecordFile) :
    (headLine file.moduleName ++ "\n").toList <:+: file.text.toList :=
  infix_unlines (by simp [headLine])

theorem headLine_mem_callFile (file : CallFile) :
    (headLine file.moduleName ++ "\n").toList <:+: file.text.toList :=
  infix_unlines (by simp [headLine])

theorem exists_file_of_mem_emittedModules {l : Lexicon} {runtimeModule m : String}
    (hm : m ∈ l.emittedModules runtimeModule) :
    ∃ file ∈ (l.generate runtimeModule).1,
      (headLine m ++ "\n").toList <:+: file.contents.toList := by
  obtain ⟨artifact, hplan, hm⟩ := List.mem_flatMap.mp hm
  have hartifact : ∃ contents events, l.artifact? runtimeModule artifact = some (contents, events) ∧
      (headLine m ++ "\n").toList <:+: contents.toList := by
    cases artifact with
    | structs =>
        obtain ⟨part, hpart, rfl⟩ := List.mem_map.mp hm
        have hne : l.definitions.structs.isEmpty = false := by
          cases hempty : l.definitions.structs <;> simp_all [structFile]
        exact ⟨_, [], by simp [artifact?, hne], headLine_mem_structFile hpart⟩
    | schema =>
        obtain ⟨d, hd, rfl⟩ := List.mem_map.mp hm
        exact ⟨_, _, by rw [artifact?, Option.mem_toList.mp hd]; rfl, headLine_mem_recordFile _⟩
    | call =>
        obtain ⟨⟨kind, d⟩, hd, rfl⟩ := List.mem_map.mp hm
        exact ⟨_, _, by rw [artifact?, Option.mem_toList.mp hd]; rfl, headLine_mem_callFile _⟩
  obtain ⟨contents, events, hcontents, hinfix⟩ := hartifact
  refine ⟨⟨l.directory.join ⟨artifact.fileName⟩, contents⟩, ?_, hinfix⟩
  simp only [generate, List.mem_map, List.mem_filterMap]
  exact ⟨_, ⟨artifact, hplan, by rw [hcontents]; rfl⟩, rfl⟩

end Files

section Distinct

variable {l : Lexicon} {lexicons : List Lexicon} {r : Reference}

/-- The keys of the emitted definitions as they stand in the names of modules. -/
def capitalKeys (l : Lexicon) : List String := l.emitted.map fun r => capitalize r.key

theorem nsid_of_mem_emitted (hr : r ∈ l.emitted) : r.nsid = l.nsid := by
  obtain ⟨d, -, rfl⟩ := List.mem_map.mp hr
  rfl

theorem nodup_emittedModules_iff (runtimeModule : String)
    (haccepted : ∀ l ∈ lexicons, Nsid.validate l.nsid = .ok ()) :
    (lexicons.flatMap (·.emittedModules runtimeModule)).Nodup ↔
      (lexicons.flatMap emitted).Pairwise fun r r' => ¬ r.LooksLike r' := by
  have haccepted' : ∀ r ∈ lexicons.flatMap emitted, Nsid.validate r.nsid = .ok () := by
    intro r hr
    obtain ⟨l, hl, hr⟩ := List.mem_flatMap.mp hr
    rw [nsid_of_mem_emitted hr]
    exact haccepted l hl
  simp only [emittedModules_eq, ← List.map_flatMap]
  rw [List.Nodup, List.pairwise_map]
  apply List.Pairwise.iff_of_mem
  intro r r' hr hr'
  exact (Reference.moduleName_eq_iff (haccepted' r hr) (haccepted' r' hr')).not

theorem pairwise_not_looksLike_iff (hdots : ∀ l ∈ lexicons, ∀ r ∈ l.emitted, '.' ∉ r.key.toList) :
    ((lexicons.flatMap emitted).Pairwise fun r r' => ¬ r.LooksLike r') ↔
      (∀ l ∈ lexicons, l.capitalKeys.Nodup) ∧ lexicons.Pairwise fun l l' =>
        Names.AlikeNsids l.nsid l'.nsid → l.capitalKeys.Disjoint l'.capitalKeys := by
  rw [List.pairwise_flatMap]
  refine and_congr (forall₂_congr fun l hl => ?_) (List.Pairwise.iff_of_mem ?_)
  · rw [capitalKeys, List.Nodup, List.pairwise_map]
    apply List.Pairwise.iff_of_mem
    intro r r' hr hr'
    rw [Reference.looksLike_iff_of_no_dot (hdots l hl r hr) (hdots l hl r' hr'),
      nsid_of_mem_emitted hr, nsid_of_mem_emitted hr']
    simp [Names.AlikeNsids.refl]
  · intro l l' hl hl'
    constructor
    · intro hunlike halike key hkey hkey'
      obtain ⟨r, hr, rfl⟩ := List.mem_map.mp hkey
      obtain ⟨r', hr', heq⟩ := List.mem_map.mp hkey'
      refine hunlike r hr r' hr' ?_
      rw [Reference.looksLike_iff_of_no_dot (hdots l hl r hr) (hdots l' hl' r' hr'),
        nsid_of_mem_emitted hr, nsid_of_mem_emitted hr']
      exact ⟨halike, heq.symm⟩
    · intro hdisjoint r hr r' hr'
      rw [Reference.looksLike_iff_of_no_dot (hdots l hl r hr) (hdots l' hl' r' hr'),
        nsid_of_mem_emitted hr, nsid_of_mem_emitted hr']
      rintro ⟨halike, heq⟩
      exact hdisjoint halike (List.mem_map_of_mem hr) (heq ▸ List.mem_map_of_mem hr')

/-- The modules of accepted documents have distinct names exactly when no two of the definitions
look alike. With no dot in the keys of definitions, that is: in no document do two keys differ only
in the case of their first character, and documents whose NSIDs look alike have no such keys in
common. Every name is the head of a module in a file of its document. -/
theorem emittedModules_nodup_iff (lexicons : List Lexicon) (runtimeModule : String)
    (haccepted : ∀ l ∈ lexicons, Nsid.validate l.nsid = .ok ()) :
    ((lexicons.flatMap (·.emittedModules runtimeModule)).Nodup ↔
      (lexicons.flatMap emitted).Pairwise fun r r' => ¬ r.LooksLike r') ∧
    ((∀ l ∈ lexicons, ∀ r ∈ l.emitted, '.' ∉ r.key.toList) →
      ((lexicons.flatMap (·.emittedModules runtimeModule)).Nodup ↔
        (∀ l ∈ lexicons, l.capitalKeys.Nodup) ∧ lexicons.Pairwise fun l l' =>
          Names.AlikeNsids l.nsid l'.nsid → l.capitalKeys.Disjoint l'.capitalKeys)) ∧
    ∀ l ∈ lexicons, ∀ m ∈ l.emittedModules runtimeModule,
      ∃ file ∈ (l.generate runtimeModule).1,
        ("defmodule " ++ m ++ " do\n").toList <:+: file.contents.toList := by
  have hnames := nodup_emittedModules_iff runtimeModule haccepted
  refine ⟨hnames, ?_, ?_⟩
  · intro hdots
    exact hnames.trans (pairwise_not_looksLike_iff hdots)
  · intro l _ m hm
    simpa [headLine] using exists_file_of_mem_emittedModules hm

end Distinct

section Twins

def objectNode : Json := .object [("type", .string "object")]

/-- Keys, segments and NSIDs that differ in more than hyphens and the case of first letters. -/
def neighbours : List Lexicon :=
  [(ofDocument { id := "com.my-host.thing", defs := [
      ("main", .object [("type", .string "record")]), ("view", objectNode),
      ("viewBasic", objectNode)] }).1,
    (ofDocument { id := "com.myhost.thing", defs := [
      ("Main", objectNode), ("main", .object [("type", .string "token")])] }).1,
    (ofDocument { id := "com.my-host.thing.view", defs := [
      ("main", .object [("type", .string "query")])] }).1]

theorem emittedModules_nodup_neighbours :
    (∀ l ∈ neighbours, Nsid.validate l.nsid = .ok ()) ∧
      neighbours.flatMap (·.emittedModules "Lexicon") =
        ["Com.MyHost.Thing.View", "Com.MyHost.Thing.ViewBasic", "Com.MyHost.Thing.Main",
          "Com.Myhost.Thing.Main", "Com.MyHost.Thing.View.Main"] ∧
      (neighbours.flatMap (·.emittedModules "Lexicon")).Nodup := by
  have haccepted : ∀ l ∈ neighbours, Nsid.validate l.nsid = .ok () := by decide +kernel
  obtain ⟨-, hkeys, -⟩ := emittedModules_nodup_iff neighbours "Lexicon" haccepted
  refine ⟨haccepted, by decide +kernel, (hkeys ?_).mpr ⟨?_, ?_⟩⟩
  · decide +kernel
  · decide +kernel
  · have hunlike : neighbours.Pairwise fun l l' => ¬ Names.AlikeNsids l.nsid l'.nsid := by
      decide +kernel
    exact hunlike.imp fun hne halike => absurd halike hne

def objectDocument (id : String) (keys : List String) : Document :=
  { id, defs := keys.map (·, objectNode) }

/-- Different definitions with one name: keys that differ in the case of their first letter, NSIDs
that differ in a hyphen, and a key with a dot. -/
theorem twins_share_modules :
    (∀ doc ∈ [objectDocument "com.example.defs" ["View", "view"],
        objectDocument "com.my-host.thing" ["main"], objectDocument "com.myHost.thing" ["main"],
        objectDocument "com.example.feed" ["post.Main"],
        objectDocument "com.example.feed.post" ["main"]],
      Document.ofJson doc.toJson = .ok doc) ∧
    (ofDocument (objectDocument "com.example.defs" ["View", "view"])).1.emittedModules "Lexicon" =
      ["Com.Example.Defs.View", "Com.Example.Defs.View"] ∧
    (ofDocument (objectDocument "com.my-host.thing" ["main"])).1.emittedModules "Lexicon" =
      ["Com.MyHost.Thing.Main"] ∧
    (ofDocument (objectDocument "com.myHost.thing" ["main"])).1.emittedModules "Lexicon" =
      ["Com.MyHost.Thing.Main"] ∧
    (ofDocument (objectDocument "com.example.feed" ["post.Main"])).1.emittedModules "Lexicon" =
      ["Com.Example.Feed.Post.Main"] ∧
    (ofDocument (objectDocument "com.example.feed.post" ["main"])).1.emittedModules "Lexicon" =
      ["Com.Example.Feed.Post.Main"] := by
  refine ⟨?_, by decide +kernel⟩
  simp only [List.forall_mem_cons]
  exact ⟨rfl, rfl, rfl, rfl, rfl, by simp⟩

end Twins

end Lexicon

end Lexgen
