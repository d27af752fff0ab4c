import Lexgen.Proofs.Disk.Reordering
import Lexgen.Proofs.Document.AcceptedDocuments
import Lexgen.Proofs.Run.DocumentTasks

namespace Lexgen

open Lexgen.Text

/-- The disk that is left when a file cannot be written. -/
def Disk.afterRefusal (d : Disk) (out : Path) (file : SourceFile) : Disk :=
  (d.writeFile (out.join file.path) (encode file.contents)).1

namespace Inputs

variable {d e : Disk} {p : Path} {bytes : Bytes}

theorem loadFile_congr (hread : d.read p = e.read p) : loadFile d p = loadFile e p := by
  rw [loadFile, loadFile, readDocument, readDocument, hread]

theorem exists_document_of_loadFile {compiled : Lexicon × List Event}
    (hload : loadFile d p = .ok compiled) :
    ∃ doc, Nsid.validate doc.id = .ok () ∧ Lexicon.ofDocument doc = compiled := by
  rw [loadFile] at hload
  cases hbytes : readDocument d p with
  | error e => simp [hbytes, bind, Except.bind] at hload
  | ok bytes =>
      simp only [hbytes, bind, Except.bind, Lexicon.parse, Document.parse] at hload
      cases hscan : Json.Scan.run Document.scan bytes with
      | error fault => simp [hscan] at hload
      | ok doc =>
          cases hcheck : doc.checkId with
          | error problem => simp [hscan, hcheck] at hload
          | ok doc' =>
              simp only [hscan, hcheck] at hload
              exact ⟨doc', Document.validate_of_checkId hcheck, Except.ok.inj hload⟩

theorem validate_of_loadFile {lexicon : Lexicon} {events : List Event}
    (hload : loadFile d p = .ok (lexicon, events)) : Nsid.validate lexicon.nsid = .ok () := by
  obtain ⟨doc, haccepted, hcompiled⟩ := exists_document_of_loadFile hload
  rw [← show (Lexicon.ofDocument doc).1 = lexicon from congrArg Prod.fst hcompiled]
  exact haccepted

theorem isDocumentError_of_loadFile {e : Error} (hread : d.read p = .ok bytes)
    (hload : loadFile d p = .error e) : e.isDocumentError = true := by
  simp only [loadFile, readDocument, hread, bind, Except.bind] at hload
  cases hparse : Lexicon.parse bytes with
  | ok compiled => simp [hparse, pure, Except.pure] at hload
  | error problem =>
      rw [hparse] at hload
      obtain rfl := Except.error.inj hload
      rfl

end Inputs

namespace Action

variable {out : Path} {event : Path → Event} {file : SourceFile} {files : List SourceFile}
  {w w' : World} {d' : Disk}

theorem exec_emit (out : Path) (event : Path → Event) (file : SourceFile) (w : World) :
    (emit out event file).exec w =
      match w.disk.writeFile (out.join file.path) (encode file.contents) with
      | (d', .ok _) => (.ok (out.join file.path),
          { w with disk := d', events := w.events ++ [event (out.join file.path)] })
      | (d', .error (path, fault)) => (.error (.io path fault), { w with disk := d' }) := by
  have hwrite : (writeFile (out.join file.path) file.contents).exec w =
      match w.disk.writeFile (out.join file.path) (encode file.contents) with
      | (d', .ok _) => (.ok (), { w with disk := d' })
      | (d', .error (path, fault)) => (.error (.io path fault), { w with disk := d' }) := by
    rw [writeFile, exec_bind_ok (exec_get w)]
    rcases w.disk.writeFile (out.join file.path) (encode file.contents) with
      ⟨d', ⟨path, fault⟩ | _⟩ <;> rfl
  rcases hresult : w.disk.writeFile (out.join file.path) (encode file.contents) with
    ⟨d', ⟨path, fault⟩ | _⟩
  · rw [hresult] at hwrite
    exact exec_bind_error hwrite _
  · rw [hresult] at hwrite
    exact exec_bind_ok hwrite _

theorem exec_emit_of_save (event : Path → Event) (hsave : w.disk.save out file = some d') :
    (emit out event file).exec w =
      (.ok (out.join file.path),
        { w with disk := d', events := w.events ++ [event (out.join file.path)] }) := by
  rw [Disk.save] at hsave
  rw [exec_emit]
  rcases hwrite : w.disk.writeFile (out.join file.path) (encode file.contents) with
    ⟨d₁, ⟨path, fault⟩ | _⟩
  · simp [hwrite] at hsave
  · rw [hwrite] at hsave
    obtain rfl := Option.some.inj hsave
    rfl

theorem exec_emit_of_save_eq_none (event : Path → Event) (hsave : w.disk.save out file = none) :
    ∃ e, (emit out event file).exec w =
      (.error e, { w with disk := w.disk.afterRefusal out file }) := by
  rw [Disk.save] at hsave
  rw [exec_emit, Disk.afterRefusal]
  rcases hwrite : w.disk.writeFile (out.join file.path) (encode file.contents) with
    ⟨d₁, ⟨path, fault⟩ | _⟩
  · exact ⟨.io path fault, rfl⟩
  · simp [hwrite] at hsave

theorem save_of_exec_emit {path : Path} (hemit : (emit out event file).exec w = (.ok path, w')) :
    w.disk.save out file = some w'.disk ∧ w'.ready = w.ready := by
  cases hsave : w.disk.save out file with
  | none =>
      obtain ⟨e, herror⟩ := exec_emit_of_save_eq_none event hsave
      rw [herror] at hemit
      simp at hemit
  | some d' =>
      rw [exec_emit_of_save event hsave] at hemit
      obtain ⟨-, rfl⟩ := Prod.mk.inj hemit
      exact ⟨rfl, rfl⟩

theorem exec_mapM_emit_of_saveAll (event : Path → Event)
    (hsaves : Disk.saveAll out w.disk files = some d') :
    (files.mapM (emit out event)).exec w =
      (.ok (files.map fun file => out.join file.path),
        { w with
          disk := d'
          events := w.events ++ files.map fun file => event (out.join file.path) }) := by
  induction files generalizing w with
  | nil =>
      obtain rfl := Option.some.inj hsaves
      simp
  | cons file files ih =>
      obtain ⟨d₁, hsave, hrest⟩ := Disk.saveAll_cons_eq_some_iff.mp hsaves
      rw [List.mapM_cons, exec_bind_ok (exec_emit_of_save event hsave), exec_bind_ok (ih hrest)]
      simp

theorem exec_mapM_emit_of_saveAll_eq_none (event : Path → Event)
    (hsaves : Disk.saveAll out w.disk files = none) :
    ∃ done file later d₁ e, files = done ++ file :: later ∧
      Disk.saveAll out w.disk done = some d₁ ∧ d₁.save out file = none ∧
      (files.mapM (emit out event)).exec w =
        (.error e,
          { w with
            disk := d₁.afterRefusal out file
            events := w.events ++ done.map fun file => event (out.join file.path) }) := by
  induction files generalizing w with
  | nil => simp [Disk.saveAll] at hsaves
  | cons file files ih =>
      rw [List.mapM_cons]
      cases hsave : w.disk.save out file with
      | none =>
          obtain ⟨e, herror⟩ := exec_emit_of_save_eq_none event hsave
          refine ⟨[], file, files, w.disk, e, rfl, rfl, hsave, ?_⟩
          rw [exec_bind_error herror]
          simp
      | some d₁ =>
          rw [Disk.saveAll, hsave, Option.bind_some] at hsaves
          have hfirst := exec_emit_of_save event hsave
          obtain ⟨done, next, later, d₂, e, rfl, hdone, hnext, herror⟩ :=
            ih (w := { w with
              disk := d₁, events := w.events ++ [event (out.join file.path)] }) hsaves
          refine ⟨file :: done, next, later, d₂, e, rfl, ?_, hnext, ?_⟩
          · exact Disk.saveAll_cons_eq_some_iff.mpr ⟨d₁, hsave, hdone⟩
          · rw [exec_bind_ok hfirst, exec_bind_error herror]
            simp

end Action

namespace Generator

open Lexgen.Action

variable {g : Generator} {out : Path} {w : World}

/-- What comes of writing support files: nothing in a root that is ready; else all of them are
written, or some file cannot be and the root does not become ready. -/
theorem exec_writeCommon_cases (g : Generator) (out : Path) (w : World) :
    w.ready.any out.same = true ∧ (g.writeCommon out).exec w = (.ok [], w) ∨
    w.ready.any out.same = false ∧
      (∃ d', Disk.saveAll out w.disk (supportFiles g.runtimeModule) = some d' ∧
        (g.writeCommon out).exec w =
          (.ok ((supportFiles g.runtimeModule).map fun file => out.join file.path),
            { disk := d'
              ready := out :: w.ready
              events := w.events ++ (supportFiles g.runtimeModule).map fun file =>
                .wroteCommonFile (out.join file.path) })) ∨
    w.ready.any out.same = false ∧
      (∃ done file later d₁ e, supportFiles g.runtimeModule = done ++ file :: later ∧
        Disk.saveAll out w.disk done = some d₁ ∧ d₁.save out file = none ∧
        (g.writeCommon out).exec w =
          (.error e,
            { w with
              disk := d₁.afterRefusal out file
              events := w.events ++ done.map fun file =>
                .wroteCommonFile (out.join file.path) })) := by
  cases hready : w.ready.any out.same with
  | true => exact .inl ⟨rfl, exec_writeCommon_of_ready g hready⟩
  | false =>
      rw [writeCommon, exec_bind_ok (exec_get w), if_neg (by simp [hready])]
      cases hsaves : Disk.saveAll out w.disk (supportFiles g.runtimeModule) with
      | some d' =>
          refine .inr (.inl ⟨rfl, d', rfl, ?_⟩)
          rw [exec_bind_ok (exec_mapM_emit_of_saveAll .wroteCommonFile hsaves)]
          rfl
      | none =>
          obtain ⟨done, file, later, d₁, e, hfiles, hdone, hfile, herror⟩ :=
            exec_mapM_emit_of_saveAll_eq_none .wroteCommonFile hsaves
          refine .inr (.inr ⟨rfl, done, file, later, d₁, e, hfiles, hdone, hfile, ?_⟩)
          rw [exec_bind_error herror]

theorem ready_of_exec_writeCommon {written : List Path} {w' : World}
    (hcommon : (g.writeCommon out).exec w = (.ok written, w')) : w'.ready.any out.same = true := by
  rcases exec_writeCommon_cases g out w with
    ⟨hready, hexec⟩ | ⟨-, d', -, hexec⟩ | ⟨-, _, _, _, _, e, -, -, -, hexec⟩
  · rw [hexec] at hcommon
    obtain ⟨-, rfl⟩ := Prod.mk.inj hcommon
    exact hready
  · rw [hexec] at hcommon
    obtain ⟨-, rfl⟩ := Prod.mk.inj hcommon
    simp [Path.same]
  · rw [hexec] at hcommon
    simp at hcommon

theorem liesBelow_of_mem_supportFiles {runtimeModule : String} :
    ∀ file ∈ supportFiles runtimeModule, file.LiesBelow := by
  intro file hfile
  obtain ⟨name, hlies⟩ := liesAt_of_mem_supportFiles hfile
  exact ⟨_, _, hlies⟩

end Generator

end Lexgen
