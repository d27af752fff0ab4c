import Lexgen.Proofs.Disk.Removal
import Lexgen.Proofs.Run.ParallelTree
import Lexgen.Proofs.Run.PoolTracking
import Lexgen.Proofs.Run.SequentialReport

namespace Lexgen.Generator

open Lexgen.Action

variable {g : Generator} {d : Disk} {out p : Path} {paths before after : List Path} {w w' : World}
  {r report : Report}

/-- Besides those that a disk had, there are files at the paths in `written` and nowhere else, all
of them below the output root, which is ready. -/
structure Filled (d : Disk) (out : Path) (written : List Path) (w : World) : Prop where
  hasFile : ∀ q, w.disk.HasFile q ↔ d.HasFile q ∨ ∃ p ∈ written, d.place p = q
  below : ∀ p ∈ written, ∃ names, names ≠ [] ∧ d.place p = d.place out ++ names
  workingDirectory : w.disk.workingDirectory = d.workingDirectory
  ready : w.ready.any out.same = true

theorem Filled.of_mem_iff (hfilled : Filled d out before w)
    (hmem : ∀ p, p ∈ after ↔ p ∈ before) : Filled d out after w where
  hasFile := by simpa only [hmem] using hfilled.hasFile
  below := by simpa only [hmem] using hfilled.below
  workingDirectory := hfilled.workingDirectory
  ready := hfilled.ready

theorem Filled.of_disk_eq (hfilled : Filled d out before w) (hdisk : w'.disk = w.disk)
    (hready : w'.ready = w.ready) : Filled d out before w' where
  hasFile := by simpa only [hdisk] using hfilled.hasFile
  below := hfilled.below
  workingDirectory := by rw [hdisk, hfilled.workingDirectory]
  ready := by rw [hready, hfilled.ready]

theorem filled_of_saveAll {files : List SourceFile} (hlies : ∀ file ∈ files, file.LiesBelow)
    (hsaves : Disk.saveAll out d files = some w.disk) (hready : w.ready.any out.same = true) :
    Filled d out (files.map fun file => out.join file.path) w where
  hasFile := by
    intro q
    rw [Disk.hasFile_of_saveAll hlies hsaves]
    simp
  below := by
    intro p hp
    obtain ⟨file, hfile, rfl⟩ := List.mem_map.mp hp
    obtain ⟨directories, name, hat⟩ := hlies file hfile
    exact ⟨directories ++ [name], by simp, by rw [hat.place_join, List.append_assoc]⟩
  workingDirectory := Disk.workingDirectory_of_saveAll hlies hsaves
  ready := hready

theorem Filled.append (hfilled : Filled d out before w) (hmore : Filled w.disk out after w') :
    Filled d out (before ++ after) w' := by
  have hplace := Disk.place_congr hfilled.workingDirectory
  refine ⟨?_, ?_, hmore.workingDirectory.trans hfilled.workingDirectory, hmore.ready⟩
  · intro q
    rw [hmore.hasFile, hfilled.hasFile, or_assoc]
    simp only [hplace, List.mem_append, or_and_right, exists_or]
  · intro p hp
    rcases List.mem_append.mp hp with hp | hp
    · exact hfilled.below p hp
    · simpa only [hplace] using hmore.below p hp

section Steps

variable {task next : Task} {outcome : Outcome}

theorem advance_eq_inl (hready : w.ready.any out.same = true)
    (hadvance : (g.work out paths).advance task w = (w', .inl next)) :
    w'.ready = w.ready ∧
      ((∃ p l events, task = .load p ∧ Inputs.loadFile w.disk p = .ok (l, events) ∧
          next = .write l (l.generate g.runtimeModule).1 [] ∧ w'.disk = w.disk) ∨
        ∃ l file files written, task = .write l (file :: files) written ∧
          next = .write l files (written ++ [out.join file.path]) ∧
          w.disk.save out file = some w'.disk) := by
  simp only [work] at hadvance
  cases task with
  | load p =>
      have hload := exec_loadAndPrepare_of_ready g p hready
      simp only [Task.advance, afterAction_eq] at hadvance
      rcases hfile : Inputs.loadFile w.disk p with e | ⟨l, events⟩ <;> simp only [hfile] at hload
      · split at hload <;> simp [hload] at hadvance
      · simp only [hload, Prod.mk.injEq, Sum.inl.injEq] at hadvance
        obtain ⟨rfl, rfl⟩ := hadvance
        exact ⟨rfl, .inl ⟨p, l, events, rfl, hfile, rfl, rfl⟩⟩
  | write l files written =>
      cases files with
      | nil => simp [Task.advance, afterAction_eq, conclude] at hadvance
      | cons file files =>
          simp only [Task.advance, afterAction_eq] at hadvance
          cases hsave : w.disk.save out file with
          | none =>
              obtain ⟨e, herror⟩ := exec_emit_of_save_eq_none .wroteFile hsave
              simp [herror] at hadvance
          | some d' =>
              simp only [exec_emit_of_save .wroteFile hsave, Prod.mk.injEq,
                Sum.inl.injEq] at hadvance
              obtain ⟨rfl, rfl⟩ := hadvance
              exact ⟨rfl, .inr ⟨l, file, files, written, rfl, rfl, hsave⟩⟩

theorem advance_eq_ok (hready : w.ready.any out.same = true)
    (hadvance : (g.work out paths).advance task w = (w', .inr (.ok outcome))) :
    w'.ready = w.ready ∧ w'.disk = w.disk ∧
      ((∃ p e, task = .load p ∧ outcome = .malformed e) ∨
        ∃ l written, task = .write l [] written ∧ outcome = .compiled l written) := by
  simp only [work] at hadvance
  cases task with
  | load p =>
      have hload := exec_loadAndPrepare_of_ready g p hready
      simp only [Task.advance, afterAction_eq] at hadvance
      rcases hfile : Inputs.loadFile w.disk p with e | ⟨l, events⟩ <;> simp only [hfile] at hload
      · split at hload
        · simp only [hload, Prod.mk.injEq, Sum.inr.injEq, Except.ok.injEq] at hadvance
          obtain ⟨rfl, rfl⟩ := hadvance
          exact ⟨rfl, rfl, .inl ⟨p, e, rfl, rfl⟩⟩
        · simp [hload] at hadvance
      · simp [hload] at hadvance
  | write l files written =>
      cases files with
      | nil =>
          simp only [Task.advance, afterAction_eq, conclude, exec_report, Prod.mk.injEq,
            Sum.inr.injEq, Except.ok.injEq] at hadvance
          obtain ⟨rfl, rfl⟩ := hadvance
          exact ⟨rfl, rfl, .inr ⟨l, written, rfl, rfl⟩⟩
      | cons file files =>
          simp only [Task.advance, afterAction_eq] at hadvance
          rcases hemit : (emit out .wroteFile file).exec w with ⟨e | path, w₁⟩ <;>
            simp [hemit] at hadvance

end Steps

/-- What a document under way has written. -/
def Task.written : Task → List Path
  | .load _ => []
  | .write _ _ written => written

/-- What is left to write goes below the output root. -/
def Task.LiesBelow : Task → Prop
  | .load _ => True
  | .write _ files _ => ∀ file ∈ files, file.LiesBelow

/-- What a document has written in the end. -/
def delivered : Except Error Outcome → List Path
  | .ok outcome => outcome.written
  | .error _ => []

theorem tracks_work (g : Generator) (d : Disk) (out : Path) (paths before : List Path) :
    (g.work out paths).Tracks (fun written => Filled d out (before ++ written)) Task.LiesBelow
      Task.written delivered where
  perm hperm hfilled := hfilled.of_mem_iff fun p => (hperm.append_left before).symm.mem_iff
  start _ := ⟨trivial, rfl⟩
  goes := by
    intro task next done w w' htask hfilled hadvance
    obtain ⟨hready, ⟨p, l, events, rfl, hload, rfl, hdisk⟩ |
      ⟨l, file, files, written, rfl, rfl, hsave⟩⟩ := advance_eq_inl hfilled.ready hadvance
    · exact ⟨liesBelow_of_loadFile g hload, hfilled.of_disk_eq hdisk hready⟩
    · obtain ⟨hfile, hfiles⟩ := List.forall_mem_cons.mp htask
      refine ⟨hfiles, ?_⟩
      have hsaves : Disk.saveAll out w.disk [file] = some w'.disk :=
        Disk.saveAll_cons_eq_some_iff.mpr ⟨_, hsave, rfl⟩
      have hmore := filled_of_saveAll (by simpa using hfile) hsaves (hready ▸ hfilled.ready)
      simpa [Task.written] using hfilled.append hmore
  ends := by
    intro task result done w w' htask hfilled hadvance hresult
    cases result with
    | error e => simp [work] at hresult
    | ok outcome =>
        obtain ⟨hready, hdisk, ⟨p, e, rfl, rfl⟩ | ⟨l, written, rfl, rfl⟩⟩ :=
          advance_eq_ok hfilled.ready hadvance
        · exact hfilled.of_disk_eq hdisk hready
        · exact hfilled.of_disk_eq hdisk hready

section Runs

theorem written_record (r : Report) (p : Path) (outcome : Outcome) :
    (r.record p outcome).written = r.written ++ outcome.written := by
  cases outcome <;> simp [Report.record, Outcome.written]

theorem filled_of_exec_processAll (hfilled : Filled d out r.written w)
    (hall : (g.processAll out r paths).exec w = (.ok report, w')) :
    Filled d out report.written w' := by
  induction paths generalizing r w with
  | nil =>
      obtain ⟨hreport, rfl⟩ := Prod.mk.inj hall
      rw [← Except.ok.inj hreport]
      exact hfilled
  | cons p paths ih =>
      obtain ⟨outcome, w₁, hprocess, hlater⟩ := exec_bind_eq_ok hall
      refine ih ?_ hlater
      have hfinishes := finishes_process g out paths p w
      rw [hprocess] at hfinishes
      have hstart : Filled d out (r.written ++ ([] ++ Task.written (.load p))) w := by
        simpa [Task.written] using hfilled
      rw [written_record]
      exact (tracks_work g d out paths r.written).of_finishes hfinishes rfl trivial hstart

theorem mem_written_collect {entries : List (Path × Option (Except Error Outcome))}
    (hcollect : collect r entries = .ok report) (hall : ∀ entry ∈ entries, entry.2.isSome = true) :
    p ∈ report.written ↔ p ∈ r.written ∨
      ∃ entry ∈ entries, ∃ result, entry.2 = some result ∧ p ∈ delivered result := by
  induction entries generalizing r with
  | nil =>
      obtain rfl := Except.ok.inj hcollect
      simp
  | cons entry entries ih =>
      rw [List.forall_mem_cons] at hall
      obtain ⟨q, _ | _ | outcome⟩ := entry
      · simp at hall
      · simp [collect, bind, Except.bind] at hcollect
      · rw [ih hcollect hall.2, written_record]
        simp [delivered, or_assoc]

theorem mem_zip_results_iff (pool : WorkerPool World Task (Except Error Outcome))
    {entry : Path × Option (Except Error Outcome)} :
    entry ∈ paths.zip (pool.results paths.length) ↔
      ∃ index, ∃ hindex : index < paths.length, entry = (paths[index], pool.result? index) := by
  rw [List.mem_iff_getElem?]
  constructor
  · rintro ⟨index, hentry⟩
    have hindex : index < paths.length := by
      have hlength := (List.getElem?_eq_some_iff.mp hentry).1
      rw [List.length_zip] at hlength
      omega
    rw [getElem?_zip_results pool hindex] at hentry
    exact ⟨index, hindex, (Option.some.inj hentry).symm⟩
  · rintro ⟨index, hindex, rfl⟩
    exact ⟨index, getElem?_zip_results pool hindex⟩

theorem mem_written_iff_shown {α : Type} {due : List α → World → Prop} {fit : Task → Prop}
    {owed : Task → List α} {pool : WorkerPool World Task (Except Error Outcome)}
    (hledger : pool.Ledger (g.work out paths) due fit owed) (hdone : pool.isDone = true)
    (hworkers : 0 < pool.workers.length) (hfails : ¬ pool.Fails (g.work out paths))
    (hcollect : collect r (paths.zip (pool.results paths.length)) = .ok report) :
    p ∈ report.written ↔
      p ∈ r.written ++ pool.workers.flatMap (Worker.shown Task.written delivered) := by
  have hcount : paths.length ≤ pool.cursor :=
    (hledger.balanced.resolve_left hfails).count_le_cursor hdone hworkers
  have hall : ∀ entry ∈ paths.zip (pool.results paths.length), entry.2.isSome = true := by
    intro entry hentry
    obtain ⟨index, hindex, rfl⟩ := (mem_zip_results_iff pool).mp hentry
    have htaken : index < min pool.cursor (g.work out paths).count :=
      Nat.lt_min.mpr ⟨by omega, hindex⟩
    obtain ⟨result, hresult⟩ := hledger.exists_result?_of_lt hdone htaken
    simp [hresult]
  rw [mem_written_collect hcollect hall, List.mem_append,
    WorkerPool.mem_shown_iff_of_isDone hledger hdone]
  refine or_congr_right ?_
  constructor
  · rintro ⟨entry, hentry, result, hresult, hdelivered⟩
    obtain ⟨index, hindex, rfl⟩ := (mem_zip_results_iff pool).mp hentry
    exact ⟨index, result, hresult, hdelivered⟩
  · rintro ⟨index, result, hresult, hdelivered⟩
    have hindex : index < paths.length :=
      (Nat.lt_min.mp (hledger.lt_of_mem_kept hdone (WorkerPool.mem_kept_of_result? hresult))).2
    exact ⟨_, (mem_zip_results_iff pool).mpr ⟨index, hindex, rfl⟩, result, hresult, hdelivered⟩

theorem filled_of_exec_processPooled (hfilled : Filled d out r.written w) {jobs : Nat}
    {schedule : List Nat} (hsize : 0 < min jobs paths.length)
    (hdone : ((WorkerPool.ofSize (min jobs paths.length) w).run
      (g.work out paths) schedule).isDone = true)
    (hpooled : (g.processPooled out jobs schedule r paths).exec w = (.ok report, w')) :
    Filled d out report.written w' := by
  have hledger := WorkerPool.ledger_of_nothing (g.work out paths) (min jobs paths.length) w schedule
  have hstart : Filled d out (r.written ++ []) w := by simpa using hfilled
  have htracked := WorkerPool.Tracked.run (tracks_work g d out paths r.written) (.inr
    (WorkerPool.tracked_ofSize Task.LiesBelow Task.written delivered (min jobs paths.length)
      hstart)) schedule
  have hworkers : 0 < ((WorkerPool.ofSize (min jobs paths.length) w).run
      (g.work out paths) schedule).workers.length := by
    simpa [WorkerPool.ofSize] using hsize
  simp only [processPooled] at hpooled
  rw [exec_bind_ok (exec_get w), exec_bind_ok (exec_set w _)] at hpooled
  generalize (WorkerPool.ofSize (min jobs paths.length) w).run (g.work out paths) schedule = pool
    at hdone hledger htracked hworkers hpooled
  cases hcollect : collect r (paths.zip (pool.results paths.length)) with
  | error e =>
      rw [hcollect] at hpooled
      have hthrow : ((.error e : Except Error Report), pool.shared) = (.ok report, w') := hpooled
      simp at hthrow
  | ok report' =>
      rw [hcollect] at hpooled
      obtain ⟨hreport, rfl⟩ := Prod.mk.inj hpooled
      obtain rfl := Except.ok.inj hreport
      have hfails := hledger.not_fails hdone (not_isFailure_of_collect hledger hdone hcollect)
      refine (htracked.resolve_left hfails).shared.of_mem_iff fun p => ?_
      exact mem_written_iff_shown hledger hdone hworkers hfails hcollect

theorem filled_of_exec_writeDocumentsBy {schedule : List Nat} {jobs : Nat}
    (hdone : ∀ w, ((WorkerPool.ofSize (min jobs paths.length) w).run
      (g.work out paths) schedule).isDone = true)
    (hrun : (g.writeDocumentsBy schedule paths out jobs).exec w = (.ok report, w')) :
    Filled w.disk out report.written w' := by
  obtain ⟨written, w₁, hcommon, hrest⟩ := exec_bind_eq_ok hrun
  have hfilled : Filled w.disk out written w₁ := by
    have hready := ready_of_exec_writeCommon hcommon
    rcases exec_writeCommon_cases g out w with
      ⟨-, hexec⟩ | ⟨-, d', hsaves, hexec⟩ | ⟨-, _, _, _, _, e, -, -, -, hexec⟩
    · rw [hexec] at hcommon
      obtain ⟨hwritten, rfl⟩ := Prod.mk.inj hcommon
      rw [← Except.ok.inj hwritten]
      have hnone : ∀ file ∈ ([] : List SourceFile), file.LiesBelow := by simp
      exact filled_of_saveAll hnone rfl hready
    · rw [hexec] at hcommon
      obtain ⟨hwritten, rfl⟩ := Prod.mk.inj hcommon
      rw [← Except.ok.inj hwritten]
      exact filled_of_saveAll liesBelow_of_mem_supportFiles hsaves hready
    · rw [hexec] at hcommon
      simp at hcommon
  split at hrest
  · exact filled_of_exec_processAll (r := { written }) hfilled hrest
  · rename_i hseveral
    exact filled_of_exec_processPooled (r := { written }) hfilled (by omega) (hdone w₁) hrest

end Runs

end Lexgen.Generator
