import Lexgen.Proofs.Run.DocumentTasks
import Lexgen.Proofs.Run.Emission
import Lexgen.Proofs.Run.PoolLedger
import Mathlib.Data.List.Pairwise

/-!
Documents worked on at once leave the files that documents worked on in turn leave. A run that does
not fail writes the files of all documents, in an order that the schedule decides; the order makes
no difference as long as no two documents disagree about a file. Documents with different NSIDs
never do, but documents with the same NSID can, and then the one that is written last wins.
-/

namespace Lexgen

open Lexgen.Text

theorem Work.Pays.of_finishes {σ τ ρ α : Type} {work : Work σ τ ρ} {state : List α → σ → Prop}
    {fit : τ → Prop} {owed : τ → List α} (hpays : work.Pays state fit owed) {task : τ} {s s' : σ}
    {result : ρ} (hfinishes : work.Finishes task s result s')
    (hresult : work.isFailure result = false) {paid : List α} (hfit : fit task)
    (hpaid : state paid s) : state (paid ++ owed task) s' := by
  induction hfinishes generalizing paid with
  | last hadvance =>
      obtain ⟨howed, hpaid'⟩ := hpays.ends hfit hpaid hadvance hresult
      rw [howed, List.append_nil]
      exact hpaid'
  | next hadvance _ ih =>
      obtain ⟨hnext, now, howed, hpaid'⟩ := hpays.goes hfit hpaid hadvance
      rw [howed, ← List.append_assoc]
      exact ih hresult hnext hpaid'

namespace Generator

open Lexgen.Action

/-- The files of the document at a path; none if it cannot be compiled. -/
def filesFor (g : Generator) (d : Disk) (p : Path) : List SourceFile :=
  match Inputs.loadFile d p with
  | .ok (lexicon, _) => (lexicon.generate g.runtimeModule).1
  | .error _ => []

/-- The files of the documents at paths. -/
def filesForAll (g : Generator) (d : Disk) (paths : List Path) : List SourceFile :=
  paths.flatMap (g.filesFor d)

/-- Documents can be read from a disk, and writing their files leaves the documents as they are. -/
structure Steady (g : Generator) (d : Disk) (out : Path) (paths : List Path) : Prop where
  readable : ∀ p ∈ paths, ∃ bytes, d.read p = .ok bytes
  apart : ∀ p ∈ paths, ∀ file ∈ g.filesForAll d paths, d.place p ≠ d.place (out.join file.path)

/-- The worlds after some of the files of documents are written to a disk. -/
structure Written (g : Generator) (d : Disk) (out : Path) (paths : List Path)
    (files : List SourceFile) (w : World) : Prop where
  saved : Disk.saveAll out d files = some w.disk
  ready : w.ready.any out.same = true
  files : ∀ file ∈ files, file ∈ g.filesForAll d paths

/-- What a document under way has still to write. -/
def Task.owed (g : Generator) (d : Disk) : Task → List SourceFile
  | .load p => g.filesFor d p
  | .write _ files _ => files

/-- The document under way is one of those at paths. -/
def Task.Fit (g : Generator) (d : Disk) (paths : List Path) : Task → Prop
  | .load p => p ∈ paths
  | .write _ files _ => ∀ file ∈ files, file ∈ g.filesForAll d paths

variable {g : Generator} {d : Disk} {out p : Path} {paths : List Path} {files : List SourceFile}
  {w w' : World}

theorem exists_lexicon_of_mem_filesForAll {file : SourceFile}
    (hfile : file ∈ g.filesForAll d paths) :
    ∃ p ∈ paths, ∃ lexicon events, Inputs.loadFile d p = .ok (lexicon, events) ∧
      file ∈ (lexicon.generate g.runtimeModule).1 := by
  obtain ⟨p, hp, hfile⟩ := List.mem_flatMap.mp hfile
  rw [filesFor] at hfile
  split at hfile
  · exact ⟨p, hp, _, _, ‹_›, hfile⟩
  · simp at hfile

theorem liesBelow_of_mem_filesForAll {file : SourceFile} (hfile : file ∈ g.filesForAll d paths) :
    file.LiesBelow := by
  obtain ⟨p, -, lexicon, events, hload, hfile⟩ := exists_lexicon_of_mem_filesForAll hfile
  obtain ⟨artifact, hlies⟩ :=
    Lexicon.liesAt_of_mem_generate (Inputs.validate_of_loadFile hload) hfile
  exact ⟨_, _, hlies⟩

theorem Steady.loadFile_eq (hsteady : g.Steady d out paths)
    (hwritten : g.Written d out paths files w) (hp : p ∈ paths) :
    Inputs.loadFile w.disk p = Inputs.loadFile d p := by
  obtain ⟨bytes, hread⟩ := hsteady.readable p hp
  have hlies : ∀ file ∈ files, file.LiesBelow :=
    fun file hfile => liesBelow_of_mem_filesForAll (hwritten.files file hfile)
  have hread' := Disk.read_of_saveAll hlies hwritten.saved hread
    fun file hfile => hsteady.apart p hp file (hwritten.files file hfile)
  exact Inputs.loadFile_congr (hread'.trans hread.symm)

theorem Written.of_disk_eq (hwritten : g.Written d out paths files w) (hdisk : w'.disk = w.disk)
    (hready : w'.ready = w.ready) : g.Written d out paths files w' where
  saved := by rw [hdisk, hwritten.saved]
  ready := by rw [hready, hwritten.ready]
  files := hwritten.files

theorem Steady.exec_loadAndPrepare (hsteady : g.Steady d out paths)
    (hwritten : g.Written d out paths files w) (hp : p ∈ paths) :
    ∃ w', g.Written d out paths files w' ∧ w'.disk = w.disk ∧
      ((∃ lexicon, (g.loadAndPrepare out p).exec w = (.ok (.inr (lexicon, g.filesFor d p)), w')) ∨
        g.filesFor d p = [] ∧
          ∃ outcome, (g.loadAndPrepare out p).exec w = (.ok (.inl outcome), w')) := by
  obtain ⟨bytes, hread⟩ := hsteady.readable p hp
  have hload := exec_loadAndPrepare_of_ready g p hwritten.ready
  rw [hsteady.loadFile_eq hwritten hp] at hload
  rw [filesFor]
  cases hfile : Inputs.loadFile d p with
  | error e =>
      simp only [hfile, if_pos (Inputs.isDocumentError_of_loadFile hread hfile)] at hload
      refine ⟨_, ?_, ?_, .inr ⟨rfl, _, hload⟩⟩
      · exact hwritten.of_disk_eq rfl rfl
      · rfl
  | ok compiled =>
      simp only [hfile] at hload
      refine ⟨_, ?_, ?_, .inl ⟨_, hload⟩⟩
      · exact hwritten.of_disk_eq rfl rfl
      · rfl

theorem Written.concat {file : SourceFile} (hwritten : g.Written d out paths files w)
    (hfile : file ∈ g.filesForAll d paths) (hsave : w.disk.save out file = some w'.disk)
    (hready : w'.ready = w.ready) : g.Written d out paths (files ++ [file]) w' where
  saved := Disk.saveAll_append_eq_some_iff.mpr
    ⟨w.disk, hwritten.saved, Disk.saveAll_cons_eq_some_iff.mpr ⟨_, hsave, rfl⟩⟩
  ready := by rw [hready, hwritten.ready]
  files := by
    rw [List.forall_mem_append, List.forall_mem_singleton]
    exact ⟨hwritten.files, hfile⟩

theorem Steady.pays_work (hsteady : g.Steady d out paths) :
    (g.work out paths).Pays (g.Written d out paths) (Task.Fit g d paths) (Task.owed g d) where
  start := by
    intro index hindex
    have hindex : index < paths.length := hindex
    simp [work, Task.Fit, List.getD_eq_getElem?_getD, hindex]
  goes := by
    intro task next paid w w' hfit hwritten hadvance
    cases task with
    | load p =>
        simp only [work, Task.advance, afterAction_eq] at hadvance
        obtain ⟨w₁, hwritten₁, -, ⟨lexicon, hload⟩ | ⟨-, outcome, hload⟩⟩ :=
          hsteady.exec_loadAndPrepare hwritten hfit
        · simp only [hload, Prod.mk.injEq, Sum.inl.injEq] at hadvance
          obtain ⟨rfl, rfl⟩ := hadvance
          refine ⟨?_, [], rfl, by simpa using hwritten₁⟩
          intro file hfile
          exact List.mem_flatMap.mpr ⟨p, hfit, hfile⟩
        · simp [hload] at hadvance
    | write lexicon files written =>
        cases files with
        | nil => simp [work, Task.advance, afterAction_eq, conclude] at hadvance
        | cons file files =>
            simp only [work, Task.advance, afterAction_eq] at hadvance
            rcases hemit : (Action.emit out .wroteFile file).exec w with ⟨e | path, w₁⟩
            · simp [hemit] at hadvance
            · simp only [hemit, Prod.mk.injEq, Sum.inl.injEq] at hadvance
              obtain ⟨rfl, rfl⟩ := hadvance
              obtain ⟨hsave, hready⟩ := save_of_exec_emit hemit
              obtain ⟨hfile, hfiles⟩ := List.forall_mem_cons.mp hfit
              exact ⟨hfiles, [file], rfl, hwritten.concat hfile hsave hready⟩
  ends := by
    intro task result paid w w' hfit hwritten hadvance hresult
    cases task with
    | load p =>
        simp only [work, Task.advance, afterAction_eq] at hadvance
        obtain ⟨w₁, hwritten₁, -, ⟨lexicon, hload⟩ | ⟨hnone, outcome, hload⟩⟩ :=
          hsteady.exec_loadAndPrepare hwritten hfit
        · simp [hload] at hadvance
        · simp only [hload, Prod.mk.injEq] at hadvance
          obtain ⟨rfl, -⟩ := hadvance
          exact ⟨hnone, hwritten₁⟩
    | write lexicon files written =>
        cases files with
        | nil =>
            simp only [work, Task.advance, afterAction_eq, conclude, exec_report,
              Prod.mk.injEq] at hadvance
            obtain ⟨rfl, -⟩ := hadvance
            exact ⟨rfl, hwritten.of_disk_eq rfl rfl⟩
        | cons file files =>
            simp only [work, Task.advance, afterAction_eq] at hadvance
            rcases hemit : (Action.emit out .wroteFile file).exec w with ⟨e | path, w₁⟩
            · simp only [hemit, Prod.mk.injEq, Sum.inr.injEq] at hadvance
              simp [work, ← hadvance.2] at hresult
            · simp [hemit] at hadvance

theorem Steady.written_of_exec_process (hsteady : g.Steady d out paths) (hp : p ∈ paths)
    (hwritten : g.Written d out paths files w) {outcome : Outcome}
    (hprocess : (g.process out p).exec w = (.ok outcome, w')) :
    g.Written d out paths (files ++ g.filesFor d p) w' := by
  have hfinishes := finishes_process g out paths p w
  rw [hprocess] at hfinishes
  exact hsteady.pays_work.of_finishes hfinishes rfl hp hwritten

theorem Steady.written_of_exec_processAll (hsteady : g.Steady d out paths) {rest : List Path}
    (hrest : ∀ p ∈ rest, p ∈ paths) (hwritten : g.Written d out paths files w) {r report : Report}
    (hall : (g.processAll out r rest).exec w = (.ok report, w')) :
    g.Written d out paths (files ++ g.filesForAll d rest) w' := by
  induction rest generalizing r files w with
  | nil =>
      obtain ⟨-, rfl⟩ := Prod.mk.inj hall
      simpa [filesForAll] using hwritten
  | cons p rest ih =>
      rw [List.forall_mem_cons] at hrest
      obtain ⟨outcome, w₁, hprocess, hlater⟩ := exec_bind_eq_ok hall
      have hwritten₁ := hsteady.written_of_exec_process hrest.1 hwritten hprocess
      have hwritten' := ih hrest.2 hwritten₁ hlater
      rw [List.append_assoc] at hwritten'
      exact hwritten'

theorem Steady.exists_exec_process (hsteady : g.Steady d out paths)
    (hwritten : g.Written d out paths files w) (hp : p ∈ paths) {d' : Disk}
    (hsaves : Disk.saveAll out w.disk (g.filesFor d p) = some d') :
    ∃ outcome w', (g.process out p).exec w = (.ok outcome, w') := by
  rw [process_eq]
  obtain ⟨w₁, -, hdisk, ⟨lexicon, hload⟩ | ⟨-, outcome, hload⟩⟩ :=
    hsteady.exec_loadAndPrepare hwritten hp
  · rw [← hdisk] at hsaves
    have hemits := exec_mapM_emit_of_saveAll .wroteFile hsaves
    rw [exec_bind_ok hload]
    simp only [Sum.elim_inr, writeRest]
    rw [exec_bind_ok hemits]
    exact ⟨_, _, rfl⟩
  · rw [exec_bind_ok hload]
    exact ⟨_, _, rfl⟩

theorem Steady.exists_exec_processAll (hsteady : g.Steady d out paths) {rest : List Path}
    (hrest : ∀ p ∈ rest, p ∈ paths) (hwritten : g.Written d out paths files w) (r : Report)
    {d' : Disk} (hsaves : Disk.saveAll out w.disk (g.filesForAll d rest) = some d') :
    ∃ report w', (g.processAll out r rest).exec w = (.ok report, w') := by
  induction rest generalizing r files w with
  | nil => exact ⟨r, w, rfl⟩
  | cons p rest ih =>
      rw [List.forall_mem_cons] at hrest
      rw [filesForAll, List.flatMap_cons] at hsaves
      obtain ⟨d₁, hfirst, hlater⟩ := Disk.saveAll_append_eq_some_iff.mp hsaves
      obtain ⟨outcome, w₁, hprocess⟩ := hsteady.exists_exec_process hwritten hrest.1 hfirst
      have hwritten₁ := hsteady.written_of_exec_process hrest.1 hwritten hprocess
      obtain rfl : d₁ = w₁.disk := by
        obtain ⟨_, hbefore, hdisk⟩ := Disk.saveAll_append_eq_some_iff.mp hwritten₁.saved
        obtain rfl := Option.some.inj (hwritten.saved.symm.trans hbefore)
        exact Option.some.inj (hfirst.symm.trans hdisk)
      obtain ⟨report, w', hall⟩ := ih hrest.2 hwritten₁ (r.record p outcome) hlater
      refine ⟨report, w', ?_⟩
      rw [processAll, exec_bind_ok hprocess]
      exact hall

theorem not_error_of_collect {r report : Report}
    {entries : List (Path × Option (Except Error Outcome))}
    (hcollect : collect r entries = .ok report) {index : Nat}
    (hearlier : ∀ earlier < index, ∃ p result, entries[earlier]? = some (p, some result))
    (p : Path) (e : Error) : entries[index]? ≠ some (p, some (.error e)) := by
  induction entries generalizing r index with
  | nil => simp
  | cons entry entries ih =>
      cases index with
      | zero =>
          intro hentry
          obtain rfl : entry = (p, some (.error e)) := by simpa using hentry
          simp [collect, bind, Except.bind] at hcollect
      | succ index =>
          obtain ⟨q, result, hentry⟩ := hearlier 0 (Nat.succ_pos index)
          obtain rfl : entry = (q, some result) := by simpa using hentry
          cases result with
          | error e => simp [collect, bind, Except.bind] at hcollect
          | ok outcome =>
              rw [List.getElem?_cons_succ]
              refine ih hcollect fun earlier hlt => ?_
              simpa using hearlier (earlier + 1) (by omega)

theorem getElem?_zip_results (pool : WorkerPool World Task (Except Error Outcome)) {index : Nat}
    (hindex : index < paths.length) :
    (paths.zip (pool.results paths.length))[index]? = some (paths[index], pool.result? index) := by
  rw [List.getElem?_zip_eq_some]
  simp [WorkerPool.results, hindex]

theorem not_isFailure_of_collect {α : Type} {state : List α → World → Prop} {fit : Task → Prop}
    {owed : Task → List α} {pool : WorkerPool World Task (Except Error Outcome)}
    (hledger : pool.Ledger (g.work out paths) state fit owed) (hdone : pool.isDone = true)
    {r report : Report}
    (hcollect : collect r (paths.zip (pool.results paths.length)) = .ok report) :
    ∀ index < min pool.cursor (g.work out paths).count, ∀ result,
      pool.result? index = some result → (g.work out paths).isFailure result = false := by
  intro index hindex result hresult
  cases result with
  | ok outcome => rfl
  | error e =>
      have hcount : (g.work out paths).count = paths.length := rfl
      have hpath : index < paths.length := by omega
      have hentry := getElem?_zip_results pool hpath
      rw [hresult] at hentry
      refine absurd hentry (not_error_of_collect hcollect ?_ _ e)
      intro earlier hearlier
      obtain ⟨result, hresult⟩ :=
        hledger.exists_result?_of_lt hdone (Nat.lt_trans hearlier hindex)
      rw [getElem?_zip_results pool (Nat.lt_trans hearlier hpath), hresult]
      exact ⟨_, result, rfl⟩

theorem flatMap_owed_start (g : Generator) (d : Disk) (out : Path) (paths : List Path) :
    ((List.range (g.work out paths).count).flatMap fun index =>
      Task.owed g d ((g.work out paths).start index)) = g.filesForAll d paths := by
  have hpaths : (List.range paths.length).map (fun index => paths.getD index ⟨""⟩) = paths := by
    apply List.ext_getElem
    · simp
    · intro index _ hindex
      simp [hindex]
  calc (List.range paths.length).flatMap (fun index => g.filesFor d (paths.getD index ⟨""⟩))
    _ = ((List.range paths.length).map fun index => paths.getD index ⟨""⟩).flatMap
          (g.filesFor d) := by rw [List.flatMap_map]
    _ = g.filesForAll d paths := by rw [hpaths, filesForAll]

theorem Steady.exists_written_of_exec_processPooled (hsteady : g.Steady d out paths)
    (hwritten : g.Written d out paths [] w) {jobs : Nat} {schedule : List Nat}
    (hsize : 0 < min jobs paths.length)
    (hdone : ((WorkerPool.ofSize (min jobs paths.length) w).run
      (g.work out paths) schedule).isDone = true)
    {r report : Report}
    (hpooled : (g.processPooled out jobs schedule r paths).exec w = (.ok report, w')) :
    ∃ files, g.Written d out paths files w' ∧ files.Perm (g.filesForAll d paths) := by
  have hledger := (WorkerPool.ledger_ofSize (g.work out paths) (Task.Fit g d paths) (Task.owed g d)
    (min jobs paths.length) hwritten).run hsteady.pays_work schedule
  have hworkers : 0 < ((WorkerPool.ofSize (min jobs paths.length) w).run
      (g.work out paths) schedule).workers.length := by
    simpa [WorkerPool.ofSize] using hsize
  simp only [processPooled] at hpooled
  rw [exec_bind_ok (exec_get w), exec_bind_ok (exec_set w _)] at hpooled
  generalize (WorkerPool.ofSize (min jobs paths.length) w).run (g.work out paths) schedule = pool
    at hdone hledger hworkers hpooled
  cases hcollect : collect r (paths.zip (pool.results paths.length)) with
  | error e =>
      rw [hcollect] at hpooled
      have hthrow : ((.error e : Except Error Report), pool.shared) = (.ok report, w') := hpooled
      simp at hthrow
  | ok report' =>
      rw [hcollect] at hpooled
      obtain ⟨-, rfl⟩ := Prod.mk.inj hpooled
      have hresults := not_isFailure_of_collect hledger hdone hcollect
      obtain ⟨files, hfiles, hperm⟩ := hledger.exists_paid_of_isDone hdone hworkers hresults
      rw [flatMap_owed_start] at hperm
      exact ⟨files, hfiles, hperm⟩

theorem exec_writeCommon_eq_ok {written : List Path}
    (hcommon : (g.writeCommon out).exec w = (.ok written, w')) :
    ∃ files, (∀ file ∈ files, file ∈ supportFiles g.runtimeModule) ∧
      Disk.saveAll out w.disk files = some w'.disk := by
  rcases exec_writeCommon_cases g out w with
    ⟨-, hexec⟩ | ⟨-, d', hsaves, hexec⟩ | ⟨-, _, _, _, _, e, -, -, -, hexec⟩
  · rw [hexec] at hcommon
    obtain ⟨-, rfl⟩ := Prod.mk.inj hcommon
    exact ⟨[], by simp, rfl⟩
  · rw [hexec] at hcommon
    obtain ⟨-, rfl⟩ := Prod.mk.inj hcommon
    exact ⟨supportFiles g.runtimeModule, fun _ => id, hsaves⟩
  · rw [hexec] at hcommon
    simp at hcommon

theorem steady_of_exec_writeCommon {written : List Path}
    (hcommon : (g.writeCommon out).exec w = (.ok written, w'))
    (hreadable : ∀ p ∈ paths, ∃ bytes, w.disk.read p = .ok bytes)
    (hapart : ∀ p ∈ paths, ∀ file ∈ supportFiles g.runtimeModule ++ g.filesForAll w.disk paths,
      w.disk.place p ≠ w.disk.place (out.join file.path)) :
    g.Steady w'.disk out paths ∧ g.filesForAll w'.disk paths = g.filesForAll w.disk paths ∧
      ∀ p, w'.disk.place p = w.disk.place p := by
  obtain ⟨files, hsupport, hsaves⟩ := exec_writeCommon_eq_ok hcommon
  have hlies : ∀ file ∈ files, file.LiesBelow :=
    fun file hfile => liesBelow_of_mem_supportFiles file (hsupport file hfile)
  have hplace := Disk.place_of_saveAll hlies hsaves
  have hread : ∀ p ∈ paths, ∀ bytes, w.disk.read p = .ok bytes → w'.disk.read p = .ok bytes := by
    intro p hp bytes hread
    refine Disk.read_of_saveAll hlies hsaves hread fun file hfile => ?_
    exact hapart p hp file (List.mem_append_left _ (hsupport file hfile))
  have hfiles : g.filesForAll w'.disk paths = g.filesForAll w.disk paths := by
    refine List.flatMap_congr fun p hp => ?_
    obtain ⟨bytes, hbytes⟩ := hreadable p hp
    rw [filesFor, filesFor, Inputs.loadFile_congr ((hread p hp bytes hbytes).trans hbytes.symm)]
  refine ⟨⟨?_, ?_⟩, hfiles, hplace⟩
  · intro p hp
    obtain ⟨bytes, hbytes⟩ := hreadable p hp
    exact ⟨bytes, hread p hp bytes hbytes⟩
  · intro p hp file hfile
    rw [hfiles] at hfile
    rw [hplace, hplace]
    exact hapart p hp file (List.mem_append_right _ hfile)

/-- Documents with the same NSID do not differ in a file. -/
def Agree (g : Generator) (d : Disk) (paths : List Path) : Prop :=
  ∀ p ∈ paths, ∀ p' ∈ paths, ∀ lexicon events lexicon' events',
    Inputs.loadFile d p = .ok (lexicon, events) → Inputs.loadFile d p' = .ok (lexicon', events') →
    lexicon.nsid = lexicon'.nsid →
    ∀ file ∈ (lexicon.generate g.runtimeModule).1, ∀ file' ∈ (lexicon'.generate g.runtimeModule).1,
      file.path = file'.path → file.contents = file'.contents

theorem Agree.contents_eq (hagree : g.Agree d paths) {file file' : SourceFile}
    (hfile : file ∈ g.filesForAll d paths) (hfile' : file' ∈ g.filesForAll d paths)
    (hpath : file.path = file'.path) : file.contents = file'.contents := by
  obtain ⟨p, hp, lexicon, events, hload, hfile⟩ := exists_lexicon_of_mem_filesForAll hfile
  obtain ⟨p', hp', lexicon', events', hload', hfile'⟩ := exists_lexicon_of_mem_filesForAll hfile'
  by_cases hnsid : lexicon.nsid = lexicon'.nsid
  · exact hagree p hp p' hp' lexicon events lexicon' events' hload hload' hnsid file hfile file'
      hfile' hpath
  · have hapart := Lexicon.apart_of_nsid_ne (Inputs.validate_of_loadFile hload)
      (Inputs.validate_of_loadFile hload') hnsid hfile hfile'
    rw [hpath] at hapart
    exact absurd (List.prefix_refl _) hapart.1

theorem agree_of_nsid_ne
    (hdistinct : ∀ p ∈ paths, ∀ p' ∈ paths, p ≠ p' → ∀ lexicon events lexicon' events',
      Inputs.loadFile d p = .ok (lexicon, events) → Inputs.loadFile d p' = .ok (lexicon', events') →
      lexicon.nsid ≠ lexicon'.nsid) :
    g.Agree d paths := by
  intro p hp p' hp' lexicon events lexicon' events' hload hload' hnsid file hfile file' hfile' hpath
  by_cases hsame : p = p'
  · subst hsame
    obtain ⟨rfl, -⟩ := Prod.mk.inj (Except.ok.inj (hload.symm.trans hload'))
    have haccepted := Inputs.validate_of_loadFile hload
    by_contra hcontents
    have hne : file ≠ file' := fun heq => hcontents (congrArg SourceFile.contents heq)
    have hsymm : Std.Symm fun file file' : SourceFile => file.path.Apart file'.path :=
      ⟨fun _ _ hapart => ⟨hapart.2, hapart.1⟩⟩
    have hapart :=
      (Lexicon.pairwise_apart_generate g.runtimeModule haccepted).forall hfile hfile' hne
    rw [hpath] at hapart
    exact hapart.1 (List.prefix_refl _)
  · exact absurd hnsid (hdistinct p hp p' hp' hsame lexicon events lexicon' events' hload hload')

/-- Documents that are worked on at once leave the files that they leave when worked on in turn, if
they can all be read, no file of the run goes where one of them lies, and documents with the same
NSID do not differ in a file. Whatever schedule lets all workers exit: if the run does not fail,
neither does the one in turn, the same entry stands at every place after both, and each file of each
document has its contents. -/
theorem writeDocumentsBy_tree_eq_sequential (g : Generator) (out : Path) (paths : List Path)
    (jobs : Nat) (schedule : List Nat) (start final : World) (report : Report)
    (hreadable : ∀ p ∈ paths, ∃ bytes, start.disk.read p = .ok bytes)
    (hapart : ∀ p ∈ paths, ∀ file ∈ supportFiles g.runtimeModule ++ g.filesForAll start.disk paths,
      start.disk.place p ≠ start.disk.place (out.join file.path))
    (hagree : g.Agree start.disk paths)
    (hdone : ∀ written w, (g.writeCommon out).exec start = (.ok written, w) →
      ((WorkerPool.ofSize (min jobs paths.length) w).run
        (g.work out paths) schedule).isDone = true)
    (hresult : (g.writeDocumentsBy schedule paths out jobs).exec start = (.ok report, final)) :
    ∃ report' final', (g.writeDocuments paths out 1).exec start = (.ok report', final') ∧
      (∀ place, final.disk.tree.get? place = final'.disk.tree.get? place) ∧
      ∀ file ∈ g.filesForAll start.disk paths,
        final.disk.tree.get? (start.disk.place (out.join file.path)) =
          some (.file (encode file.contents)) := by
  rcases hcommon : (g.writeCommon out).exec start with ⟨e | written, w⟩
  · rw [writeDocumentsBy, exec_bind_error hcommon] at hresult
    simp at hresult
  · obtain ⟨hsteady, hsame, hplace⟩ := steady_of_exec_writeCommon hcommon hreadable hapart
    have hwritten : g.Written w.disk out paths [] w :=
      ⟨rfl, ready_of_exec_writeCommon hcommon, by simp⟩
    obtain ⟨files, hfinal, hperm⟩ : ∃ files, g.Written w.disk out paths files final ∧
        files.Perm (g.filesForAll w.disk paths) := by
      rw [writeDocumentsBy, exec_bind_ok hcommon] at hresult
      by_cases hsequential : jobs ≤ 1 ∨ paths.length ≤ 1
      · rw [if_pos hsequential] at hresult
        exact ⟨_, hsteady.written_of_exec_processAll (fun _ => id) hwritten hresult, .refl _⟩
      · rw [if_neg hsequential] at hresult
        exact hsteady.exists_written_of_exec_processPooled hwritten (by omega)
          (hdone written w hcommon) hresult
    have hlies : ∀ file ∈ files, file.LiesBelow :=
      fun file hfile => liesBelow_of_mem_filesForAll (hfinal.files file hfile)
    have hcontents : ∀ file ∈ files, ∀ file' ∈ files, file.path = file'.path →
        file.contents = file'.contents := by
      intro file hfile file' hfile'
      refine hagree.contents_eq ?_ ?_
      · rw [← hsame]
        exact hfinal.files file hfile
      · rw [← hsame]
        exact hfinal.files file' hfile'
    obtain ⟨d', hsaves, halike⟩ := Disk.exists_saveAll_of_perm hperm hlies hcontents hfinal.saved
    obtain ⟨report', final', hall⟩ :=
      hsteady.exists_exec_processAll (fun _ => id) hwritten { written } hsaves
    have hfinal' := hsteady.written_of_exec_processAll (fun _ => id) hwritten hall
    obtain rfl : d' = final'.disk := Option.some.inj (hsaves.symm.trans hfinal'.saved)
    refine ⟨report', final', ?_, halike.tree, ?_⟩
    · rw [writeDocuments, writeDocumentsBy, exec_bind_ok hcommon, if_pos (.inl (Nat.le_refl 1))]
      exact hall
    · intro file hfile
      rw [← hsame] at hfile
      rw [← hplace]
      exact Disk.get?_of_saveAll hlies hcontents hfinal.saved (hperm.mem_iff.mpr hfile)

/-- The text of a document with a record and further definitions. -/
def recordText (id description others : String) : String :=
  "\x7b\"id\":\"" ++ id ++ "\",\"defs\":\x7b\"main\":\x7b\"type\":\"record\",\"description\":\"" ++
    description ++ "\"\x7d" ++ others ++ "\x7d\x7d"

def twoPaths : List Path := [⟨"a.json"⟩, ⟨"b.json"⟩]

/-- A disk with two documents. -/
def twoDocuments (first second : String) : World where
  disk := { tree := ⟨[(["a.json"], .file (encode first)), (["b.json"], .file (encode second))]⟩ }

/-- Two documents, of which the files of the second lie below the directory of the first. -/
def nestedDocuments : World :=
  twoDocuments (recordText "a.b.c" "first" "") (recordText "a.b.c.d" "second" "")

/-- The schedule in which one worker takes the first document, and the other is done with the second
before it goes on. -/
def overtaking : List Nat := List.replicate 2 0 ++ List.replicate 9 1 ++ List.replicate 9 0

theorem writeDocumentsBy_tree_overtaking :
    ∃ report final report' final',
      ((Generator.mk "Lexicon").writeDocumentsBy overtaking twoPaths ⟨"out"⟩ 2).exec
          nestedDocuments = (.ok report, final) ∧
        ((Generator.mk "Lexicon").writeDocuments twoPaths ⟨"out"⟩ 1).exec
          nestedDocuments = (.ok report', final') ∧
        ∀ place, final.disk.tree.get? place = final'.disk.tree.get? place := by
  have hreadable : ∀ p ∈ twoPaths, ∃ bytes, nestedDocuments.disk.read p = .ok bytes :=
    List.forall_mem_cons.mpr ⟨⟨_, rfl⟩, List.forall_mem_singleton.mpr ⟨_, rfl⟩⟩
  have hdistinct : ∀ p ∈ twoPaths, ∀ p' ∈ twoPaths, p ≠ p' →
      (Inputs.loadFile nestedDocuments.disk p).toOption.map (·.1.nsid) ≠
        (Inputs.loadFile nestedDocuments.disk p').toOption.map (·.1.nsid) := by
    decide +kernel
  have hagree : (Generator.mk "Lexicon").Agree nestedDocuments.disk twoPaths := by
    refine agree_of_nsid_ne ?_
    intro p hp p' hp' hne lexicon events lexicon' events' hload hload' hnsid
    refine hdistinct p hp p' hp' hne ?_
    rw [hload, hload']
    exact congrArg some hnsid
  have hexits : ((WorkerPool.ofSize (min 2 twoPaths.length)
      (((Generator.mk "Lexicon").writeCommon ⟨"out"⟩).exec nestedDocuments).2).run
        ((Generator.mk "Lexicon").work ⟨"out"⟩ twoPaths) overtaking).isDone = true := by
    decide +kernel
  have hdone : ∀ written w, ((Generator.mk "Lexicon").writeCommon ⟨"out"⟩).exec nestedDocuments =
      (.ok written, w) → ((WorkerPool.ofSize (min 2 twoPaths.length) w).run
        ((Generator.mk "Lexicon").work ⟨"out"⟩ twoPaths) overtaking).isDone = true := by
    intro written w hcommon
    rw [hcommon] at hexits
    exact hexits
  have hok : (((Generator.mk "Lexicon").writeDocumentsBy overtaking twoPaths ⟨"out"⟩ 2).exec
      nestedDocuments).1.toOption.isSome = true := by
    decide +kernel
  rcases hrun : ((Generator.mk "Lexicon").writeDocumentsBy overtaking twoPaths ⟨"out"⟩ 2).exec
    nestedDocuments with ⟨e | report, final⟩
  · rw [hrun] at hok
    simp [Except.toOption] at hok
  · obtain ⟨report', final', hsequential, htree, -⟩ := writeDocumentsBy_tree_eq_sequential
      (Generator.mk "Lexicon") ⟨"out"⟩ twoPaths 2 overtaking nestedDocuments final report hreadable
      (by decide +kernel) hagree hdone hrun
    exact ⟨report, final, report', final', rfl, hsequential, htree⟩

/-- Two documents with the same NSID and different records; the first has a further file. -/
def twinDocuments : World :=
  twoDocuments (recordText "a.b.c" "first" ",\"item\":\x7b\"type\":\"object\"\x7d")
    (recordText "a.b.c" "second" "")

/-- Documents with the same NSID can differ in a file, and then it matters which one is written
last. -/
theorem writeDocuments_twins_differ :
    (∀ p ∈ twoPaths, ∃ bytes, twinDocuments.disk.read p = .ok bytes) ∧
      (∀ p ∈ twoPaths, ∀ file ∈ supportFiles "Lexicon" ++
        (Generator.mk "Lexicon").filesForAll twinDocuments.disk twoPaths,
          twinDocuments.disk.place p ≠ twinDocuments.disk.place (Path.join ⟨"out"⟩ file.path)) ∧
      ∃ report final report' final',
        ((Generator.mk "Lexicon").writeDocuments twoPaths ⟨"out"⟩ 2).exec twinDocuments =
            (.ok report, final) ∧
          ((Generator.mk "Lexicon").writeDocuments twoPaths ⟨"out"⟩ 1).exec twinDocuments =
            (.ok report', final') ∧
          final.disk.read ⟨"out/a/b/c/schema.ex"⟩ ≠ final'.disk.read ⟨"out/a/b/c/schema.ex"⟩ := by
  have hok : (((Generator.mk "Lexicon").writeDocuments twoPaths ⟨"out"⟩ 2).exec
        twinDocuments).1.toOption.isSome = true ∧
      (((Generator.mk "Lexicon").writeDocuments twoPaths ⟨"out"⟩ 1).exec
        twinDocuments).1.toOption.isSome = true ∧
      ((((Generator.mk "Lexicon").writeDocuments twoPaths ⟨"out"⟩ 2).exec
        twinDocuments).2.disk.read ⟨"out/a/b/c/schema.ex"⟩).toOption ≠
      ((((Generator.mk "Lexicon").writeDocuments twoPaths ⟨"out"⟩ 1).exec
        twinDocuments).2.disk.read ⟨"out/a/b/c/schema.ex"⟩).toOption := by
    decide +kernel
  refine ⟨?_, by decide +kernel, ?_⟩
  · exact List.forall_mem_cons.mpr ⟨⟨_, rfl⟩, List.forall_mem_singleton.mpr ⟨_, rfl⟩⟩
  · -- What the runs come to is evaluated above; here they are only named.
    rcases hrun : ((Generator.mk "Lexicon").writeDocuments twoPaths ⟨"out"⟩ 2).exec
      twinDocuments with ⟨e | report, final⟩
    · rw [hrun] at hok
      exact absurd hok.1 (by simp [Except.toOption])
    · rcases hrun' : ((Generator.mk "Lexicon").writeDocuments twoPaths ⟨"out"⟩ 1).exec
        twinDocuments with ⟨e | report', final'⟩
      · rw [hrun'] at hok
        exact absurd hok.2.1 (by simp [Except.toOption])
      · rw [hrun, hrun'] at hok
        exact ⟨report, final, report', final', rfl, rfl,
          fun hsame => hok.2.2 (congrArg Except.toOption hsame)⟩

end Generator

end Lexgen
