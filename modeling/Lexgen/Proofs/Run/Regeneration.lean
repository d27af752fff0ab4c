import Lexgen.Proofs.Disk.Rewriting
import Lexgen.Proofs.Run.ParallelTree
import Lexgen.Proofs.Run.SequentialReport

namespace Lexgen.Generator

open Lexgen.Action

variable {g : Generator} {out p : Path} {paths : List Path} {steps : List (Path × Outcome)}
  {files : List SourceFile} {d d' : Disk} {w final : World} {report : Report}

/-- The files that come of a document, given what came of it. -/
def filesOf (g : Generator) : Outcome → List SourceFile
  | .compiled l _ => (l.generate g.runtimeModule).1
  | .malformed _ => []

theorem filesOf_outcomeOf (g : Generator) (out : Path) (d : Disk) (p : Path) :
    g.filesOf (g.outcomeOf out d p) = g.filesFor d p := by
  rw [outcomeOf, filesFor]
  rcases Inputs.loadFile d p with e | compiled <;> rfl

theorem written_outcomeOf (g : Generator) (out : Path) (d : Disk) (p : Path) :
    (g.outcomeOf out d p).written = (g.filesFor d p).map fun file => out.join file.path := by
  rw [outcomeOf, filesFor]
  rcases Inputs.loadFile d p with e | compiled <;> rfl

theorem Works.saveAll (hworks : g.Works out steps d d') :
    Disk.saveAll out d (steps.flatMap fun step => g.filesOf step.2) = some d' := by
  induction hworks with
  | done => rfl
  | malformed _ _ _ ih => exact ih
  | compiled _ hsaves _ ih =>
      rw [List.flatMap_cons]
      exact Disk.saveAll_append_eq_some_iff.mpr ⟨_, hsaves, ih⟩

theorem Steady.works (hsteady : g.Steady d out paths) {rest : List Path}
    (hrest : ∀ p ∈ rest, p ∈ paths) (hwritten : g.Written d out paths files w)
    (hsaves : Disk.saveAll out w.disk (g.filesForAll d rest) = some d') :
    g.Works out (rest.map fun p => (p, g.outcomeOf out d p)) w.disk d' := by
  induction rest generalizing files w with
  | nil =>
      obtain rfl := Option.some.inj hsaves
      exact .done
  | cons p rest ih =>
      rw [List.forall_mem_cons] at hrest
      rw [filesForAll, List.flatMap_cons] at hsaves
      obtain ⟨d₁, hfirst, hlater⟩ := Disk.saveAll_append_eq_some_iff.mp hsaves
      have hwritten₁ : g.Written d out paths (files ++ g.filesFor d p) { w with disk := d₁ } := by
        refine ⟨?_, hwritten.ready, ?_⟩
        · exact Disk.saveAll_append_eq_some_iff.mpr ⟨w.disk, hwritten.saved, hfirst⟩
        · intro file hfile
          rcases List.mem_append.mp hfile with hfile | hfile
          · exact hwritten.files file hfile
          · exact List.mem_flatMap.mpr ⟨p, hrest.1, hfile⟩
      have hworks := ih hrest.2 hwritten₁ hlater
      have hload := hsteady.loadFile_eq hwritten hrest.1
      rw [filesFor] at hfirst
      rw [List.map_cons, outcomeOf]
      rcases hfile : Inputs.loadFile d p with e | ⟨l, events⟩
      · obtain ⟨bytes, hread⟩ := hsteady.readable p hrest.1
        rw [hfile] at hload hfirst
        obtain rfl := Option.some.inj hfirst
        exact .malformed hload (Inputs.isDocumentError_of_loadFile hread hfile) hworks
      · rw [hfile] at hload hfirst
        exact .compiled hload hfirst hworks

/-- The report on documents, as they are on a disk. -/
def reportOf (g : Generator) (out : Path) (d : Disk) (paths : List Path) : Report :=
  ({ written := (supportFiles g.runtimeModule).map fun file => out.join file.path } : Report)
    |>.recordSteps (paths.map fun p => (p, g.outcomeOf out d p))

/-- The files of a run on documents, as they are on a disk. -/
def allFiles (g : Generator) (d : Disk) (paths : List Path) : List SourceFile :=
  supportFiles g.runtimeModule ++ g.filesForAll d paths

theorem written_reportOf (g : Generator) (out : Path) (d : Disk) (paths : List Path) :
    (g.reportOf out d paths).written = (g.allFiles d paths).map fun file => out.join file.path := by
  rw [reportOf, written_recordSteps, allFiles, List.map_append, filesForAll, List.map_flatMap,
    List.flatMap_map]
  simp only [written_outcomeOf]

theorem liesBelow_of_mem_allFiles {file : SourceFile} (hfile : file ∈ g.allFiles d paths) :
    file.LiesBelow :=
  (List.mem_append.mp hfile).elim (liesBelow_of_mem_supportFiles file) liesBelow_of_mem_filesForAll

theorem saveAll_of_exec_writeDocuments
    (hrun : (g.writeDocuments paths out 1).exec { disk := d } = (.ok report, final))
    (hapart : ∀ p ∈ paths, ∀ q ∈ report.written, d.place p ≠ d.place q) :
    Disk.saveAll out d (g.allFiles final.disk paths) = some final.disk ∧
      report = g.reportOf out final.disk paths ∧
      ∀ p ∈ paths, ∃ bytes, final.disk.read p = .ok bytes := by
  rw [writeDocuments, writeDocumentsBy] at hrun
  rcases exec_writeCommon_cases g out { disk := d } with
    ⟨hready, -⟩ | ⟨-, d₁, hsupport, hcommon⟩ | ⟨-, _, _, _, _, e, -, -, -, hcommon⟩
  · simp at hready
  · rw [exec_bind_ok hcommon, if_pos (.inl (Nat.le_refl 1))] at hrun
    have hready := ready_of_exec_writeCommon hcommon
    have hplace := Disk.place_of_saveAll liesBelow_of_mem_supportFiles hsupport
    obtain ⟨steps, hworks, hpaths, hreport, -⟩ := exists_works_of_exec_processAll hready hrun
    have hsteps : steps = paths.map fun p => (p, g.outcomeOf out final.disk p) := by
      rw [← hpaths]
      apply hworks.outcome_eq
      intro p hp q hq
      rw [hplace, hplace]
      apply hapart p (hpaths ▸ hp)
      rw [hreport, written_recordSteps]
      exact List.mem_append_right _ hq
    refine ⟨?_, ?_, ?_⟩
    · have hfiles := hworks.saveAll
      rw [hsteps, List.flatMap_map] at hfiles
      simp only [filesOf_outcomeOf] at hfiles
      exact Disk.saveAll_append_eq_some_iff.mpr ⟨d₁, hsupport, hfiles⟩
    · rw [hreport, hsteps]
      rfl
    · intro p hp
      apply Inputs.exists_read_of_loadFile
      intro e hload
      apply hworks.isDocumentError (p := p)
      rw [hsteps]
      exact List.mem_map.mpr ⟨p, hp, by rw [outcomeOf, hload]⟩
  · rw [exec_bind_error hcommon] at hrun
    simp at hrun

theorem exec_writeCommon_of_saveAll (hready : w.ready.any out.same = false)
    (hsaves : Disk.saveAll out w.disk (supportFiles g.runtimeModule) = some d') :
    ∃ events, (g.writeCommon out).exec w =
      (.ok ((supportFiles g.runtimeModule).map fun file => out.join file.path),
        { disk := d', ready := out :: w.ready, events }) := by
  rw [writeCommon, exec_bind_ok (exec_get w), if_neg (by simp [hready]),
    exec_bind_ok (exec_mapM_emit_of_saveAll .wroteCommonFile hsaves)]
  exact ⟨_, rfl⟩

theorem exec_writeDocuments_of_saveAll
    (hreadable : ∀ p ∈ paths, ∃ bytes, d.read p = .ok bytes)
    (hapart : ∀ p ∈ paths, ∀ file ∈ g.allFiles d paths, d.place p ≠ d.place (out.join file.path))
    (hsaves : Disk.saveAll out d (g.allFiles d paths) = some d') :
    ∃ final, (g.writeDocuments paths out 1).exec { disk := d } =
      (.ok (g.reportOf out d paths), final) ∧ final.disk = d' := by
  obtain ⟨d₁, hsupport, hfiles⟩ := Disk.saveAll_append_eq_some_iff.mp hsaves
  obtain ⟨events, hcommon⟩ := exec_writeCommon_of_saveAll (w := { disk := d }) rfl hsupport
  generalize hw : ({ disk := d₁, ready := [out], events } : World) = w at hcommon
  obtain rfl : w.disk = d₁ := by rw [← hw]
  obtain ⟨hsteady, hsame, -⟩ := steady_of_exec_writeCommon hcommon hreadable hapart
  -- the documents are loaded from the disk with the support files as they are from the first one
  have houtcomes : (paths.map fun p => (p, g.outcomeOf out w.disk p)) =
      paths.map fun p => (p, g.outcomeOf out d p) := by
    refine List.map_congr_left fun p hp => ?_
    obtain ⟨bytes, hread⟩ := hreadable p hp
    have hread' : w.disk.read p = .ok bytes := by
      refine (exec_writeCommon_ok hcommon).2.2 p bytes hread fun q hq => ?_
      obtain ⟨file, hfile, rfl⟩ := List.mem_map.mp hq
      exact hapart p hp file (List.mem_append_left _ hfile)
    rw [outcomeOf, outcomeOf, Inputs.loadFile_congr (hread'.trans hread.symm)]
  have hready := ready_of_exec_writeCommon hcommon
  rw [← hsame] at hfiles
  have hnone : g.Written w.disk out paths [] w := ⟨rfl, hready, by simp⟩
  have hworks := hsteady.works (fun _ => id) hnone hfiles
  rw [houtcomes] at hworks
  obtain ⟨later, hall⟩ := hworks.exec_processAll rfl hready
    { written := (supportFiles g.runtimeModule).map fun file => out.join file.path }
  rw [List.map_map, show Prod.fst ∘ (fun p => (p, g.outcomeOf out d p)) = id from rfl,
    List.map_id] at hall
  refine ⟨{ w with disk := d', events := later }, ?_, rfl⟩
  rw [writeDocuments, writeDocumentsBy, exec_bind_ok hcommon, if_pos (.inl (Nat.le_refl 1))]
  exact hall

/-- A run repeated on the disk that it left does not fail, has the same report, and leaves every
entry as it was, if no file is written where a document lies. -/
theorem writeDocuments_again (g : Generator) (paths : List Path) (out : Path) (d : Disk)
    (final : World) (report : Report)
    (hrun : (g.writeDocuments paths out 1).exec { disk := d } = (.ok report, final))
    (hapart : ∀ p ∈ paths, ∀ q ∈ report.written, d.place p ≠ d.place q)
    (haccepts : final.disk.Accepts) :
    ∃ final', (g.writeDocuments paths out 1).exec { disk := final.disk } = (.ok report, final') ∧
      ∀ place, final'.disk.tree.get? place = final.disk.tree.get? place := by
  obtain ⟨hsaves, hreport, hreadable⟩ := saveAll_of_exec_writeDocuments hrun hapart
  have hlies : ∀ file ∈ g.allFiles final.disk paths, file.LiesBelow :=
    fun file => liesBelow_of_mem_allFiles
  have hplace := Disk.place_of_saveAll hlies hsaves
  have hapart' : ∀ p ∈ paths, ∀ file ∈ g.allFiles final.disk paths,
      final.disk.place p ≠ final.disk.place (out.join file.path) := by
    intro p hp file hfile
    rw [hplace, hplace]
    apply hapart p hp
    rw [hreport, written_reportOf]
    exact List.mem_map_of_mem hfile
  obtain ⟨d', hagain, hsame⟩ := Disk.exists_saveAll_again hlies hsaves haccepts
  obtain ⟨final', hrun', hdisk⟩ := exec_writeDocuments_of_saveAll hreadable hapart' hagain
  rw [← hreport] at hrun'
  exact ⟨final', hrun', fun place => by rw [hdisk, hsame]⟩

section Overlapping

/-- A document without code, one that is no document, and two that describe one record
differently. -/
def overlappingDisk : Disk where
  tree := ⟨[
    (["a.json"], .file (Text.encode "\x7b\"id\":\"a.b.c\",\"defs\":\x7b\x7d\x7d")),
    (["b.json"], .file (Text.encode "\x7b\"id\":\"b\"\x7d")),
    (["c.json"], .file (Text.encode (recordText "c.d.e" "first" ""))),
    (["d.json"], .file (Text.encode (recordText "c.d.e" "second" "")))]⟩

def overlappingPaths : List Path := [⟨"d.json"⟩, ⟨"b.json"⟩, ⟨"a.json"⟩, ⟨"c.json"⟩]

theorem writeDocuments_again_overlapping :
    ∃ report final final',
      ((Generator.mk "Lexicon").writeDocuments overlappingPaths ⟨"out"⟩ 1).exec
          { disk := overlappingDisk } = (.ok report, final) ∧
        report.malformed.map Prod.fst = [⟨"b.json"⟩] ∧ report.empty = ["a.b.c"] ∧
        report.lexicons.map (·.nsid) = ["c.d.e", "a.b.c", "c.d.e"] ∧
        ((Generator.mk "Lexicon").writeDocuments overlappingPaths ⟨"out"⟩ 1).exec
          { disk := final.disk } = (.ok report, final') ∧
        ∀ place, final'.disk.tree.get? place = final.disk.tree.get? place := by
  have hfacts : (((Generator.mk "Lexicon").writeDocuments overlappingPaths ⟨"out"⟩ 1).exec
        { disk := overlappingDisk }).1.toOption.map (fun report =>
          (report.malformed.map Prod.fst, report.empty, report.lexicons.map (·.nsid))) =
        some ([⟨"b.json"⟩], ["a.b.c"], ["c.d.e", "a.b.c", "c.d.e"]) ∧
      (∀ p ∈ overlappingPaths, ∀ q ∈ ((((Generator.mk "Lexicon").writeDocuments overlappingPaths
        ⟨"out"⟩ 1).exec { disk := overlappingDisk }).1.toOption.map (·.written)).getD [],
          overlappingDisk.place p ≠ overlappingDisk.place q) ∧
      (((Generator.mk "Lexicon").writeDocuments overlappingPaths ⟨"out"⟩ 1).exec
        { disk := overlappingDisk }).2.disk.refusals = [] := by
    decide +kernel
  rcases hrun : ((Generator.mk "Lexicon").writeDocuments overlappingPaths ⟨"out"⟩ 1).exec
    { disk := overlappingDisk } with ⟨e | report, final⟩
  · rw [hrun] at hfacts
    exact absurd hfacts.1 (by simp [Except.toOption])
  · rw [hrun] at hfacts
    obtain ⟨hreport, hapart, hrefusals⟩ := hfacts
    obtain ⟨hmalformed, hreport⟩ := Prod.mk.inj (Option.some.inj hreport)
    obtain ⟨hempty, hnsids⟩ := Prod.mk.inj hreport
    have haccepts : final.disk.Accepts := by
      intro refusal hrefusal
      have hnil : final.disk.refusals = [] := hrefusals
      simp [hnil] at hrefusal
    obtain ⟨final', hagain, hsame⟩ := writeDocuments_again (Generator.mk "Lexicon")
      overlappingPaths ⟨"out"⟩ overlappingDisk final report hrun hapart haccepts
    exact ⟨report, final, final', rfl, hmalformed, hempty, hnsids, hagain, hsame⟩

end Overlapping

end Lexgen.Generator
