import Lexgen.Proofs.Run.Emission

namespace Lexgen

theorem Inputs.exists_read_of_loadFile {d : Disk} {p : Path}
    (herror : ∀ e, loadFile d p = .error e → e.isDocumentError = true) :
    ∃ bytes, d.read p = .ok bytes := by
  cases hread : d.read p with
  | ok bytes => exact ⟨bytes, rfl⟩
  | error fault =>
      have hload : loadFile d p = .error (.io p fault) := by
        simp [loadFile, readDocument, hread, bind, Except.bind]
      exact absurd (herror _ hload) (by simp [Error.isDocumentError])

theorem Lexicon.isSome_artifact?_of_mem_plan {l : Lexicon} {artifact : Artifact}
    (runtimeModule : String) (hplan : artifact ∈ Artifact.plan l) :
    (l.artifact? runtimeModule artifact).isSome = true := by
  cases artifact <;> simpa [Artifact.plan, artifact?] using hplan

theorem Lexicon.generate_eq_nil_iff (l : Lexicon) (runtimeModule : String) :
    (l.generate runtimeModule).1 = [] ↔ Artifact.plan l = [] := by
  simp only [generate, List.map_eq_nil_iff, List.filterMap_eq_nil_iff, Option.map_eq_none_iff]
  constructor
  · intro hnone
    rw [List.eq_nil_iff_forall_not_mem]
    intro artifact hplan
    have hsome := isSome_artifact?_of_mem_plan runtimeModule hplan
    simp [hnone artifact hplan] at hsome
  · intro hplan
    simp [hplan]

def Outcome.written : Outcome → List Path
  | .compiled _ written => written
  | .malformed _ => []

def Outcome.isCompiled : Outcome → Bool
  | .compiled .. => true
  | .malformed _ => false

/-- The report with the outcomes of documents in turn. -/
def Report.recordSteps (r : Report) (steps : List (Path × Outcome)) : Report :=
  steps.foldl (fun r step => r.record step.1 step.2) r

theorem Report.recordSteps_cons (r : Report) (step : Path × Outcome)
    (steps : List (Path × Outcome)) :
    r.recordSteps (step :: steps) = (r.record step.1 step.2).recordSteps steps := rfl

theorem Report.recordSteps_concat (r : Report) (steps : List (Path × Outcome))
    (step : Path × Outcome) :
    r.recordSteps (steps ++ [step]) = (r.recordSteps steps).record step.1 step.2 := by
  rw [recordSteps, List.foldl_concat, recordSteps]

theorem Report.recordSteps_filter (r : Report) (steps : List (Path × Outcome)) :
    r.recordSteps (steps.filter fun step => step.2.isCompiled) =
      { r.recordSteps steps with malformed := r.malformed } := by
  induction steps using List.reverseRecOn with
  | nil => rfl
  | append_singleton steps step ih =>
      obtain ⟨p, outcome⟩ := step
      cases outcome with
      | malformed e =>
          rw [List.filter_append, List.filter_cons_of_neg (by simp [Outcome.isCompiled]),
            List.filter_nil, List.append_nil, ih, recordSteps_concat]
          rfl
      | compiled l written =>
          rw [List.filter_append, List.filter_cons_of_pos rfl, List.filter_nil, recordSteps_concat,
            ih, recordSteps_concat]
          rfl

namespace Generator

open Lexgen.Action

variable {g : Generator} {out p : Path} {paths : List Path} {steps : List (Path × Outcome)}
  {d d' : Disk} {w w' : World} {l : Lexicon} {events : List Event} {r report : Report}

/-- Where the files of a lexicon go. -/
def filePaths (g : Generator) (out : Path) (l : Lexicon) : List Path :=
  (l.generate g.runtimeModule).1.map fun file => out.join file.path

/-- What comes of the document at a path, as it is on a disk. -/
def outcomeOf (g : Generator) (out : Path) (d : Disk) (p : Path) : Outcome :=
  match Inputs.loadFile d p with
  | .ok (l, _) => .compiled l (g.filePaths out l)
  | .error e => .malformed e

/-- `Works g out steps d d'`: documents worked on in turn have the outcomes `steps`, and take the
disk from `d` to `d'`. A malformed document leaves the disk as it is; any other has its files
written. -/
inductive Works (g : Generator) (out : Path) : List (Path × Outcome) → Disk → Disk → Prop where
  | done {d : Disk} : Works g out [] d d
  | malformed {p : Path} {e : Error} {rest : List (Path × Outcome)} {d d' : Disk} :
      Inputs.loadFile d p = .error e → e.isDocumentError = true → Works g out rest d d' →
        Works g out ((p, .malformed e) :: rest) d d'
  | compiled {p : Path} {l : Lexicon} {events : List Event} {rest : List (Path × Outcome)}
      {d d₁ d' : Disk} :
      Inputs.loadFile d p = .ok (l, events) →
        Disk.saveAll out d (l.generate g.runtimeModule).1 = some d₁ → Works g out rest d₁ d' →
        Works g out ((p, .compiled l (g.filePaths out l)) :: rest) d d'

section Process

theorem exec_process_of_error (hready : w.ready.any out.same = true) {e : Error}
    (hload : Inputs.loadFile w.disk p = .error e) :
    (g.process out p).exec w =
      if e.isDocumentError then
        (.ok (.malformed e), { w with events := w.events ++ [.skippedMalformed p e.message] })
      else (.error e, w) := by
  have hprepare := exec_loadAndPrepare_of_ready g p hready
  simp only [hload] at hprepare
  rw [process_eq]
  split
  · rename_i hdocument
    rw [if_pos hdocument] at hprepare
    rw [exec_bind_ok hprepare]
    rfl
  · rename_i hdocument
    rw [if_neg hdocument] at hprepare
    rw [exec_bind_error hprepare]

theorem exec_process_of_saveAll (hready : w.ready.any out.same = true)
    (hload : Inputs.loadFile w.disk p = .ok (l, events))
    (hsaves : Disk.saveAll out w.disk (l.generate g.runtimeModule).1 = some d') :
    ∃ later, (g.process out p).exec w =
      (.ok (.compiled l (g.filePaths out l)), { w with disk := d', events := later }) := by
  have hprepare := exec_loadAndPrepare_of_ready g p hready
  simp only [hload] at hprepare
  have hemits := exec_mapM_emit_of_saveAll .wroteFile
    (w := { w with events := w.events ++ events ++ (l.generate g.runtimeModule).2 }) hsaves
  rw [process_eq, exec_bind_ok hprepare]
  simp only [Sum.elim_inr, writeRest]
  rw [exec_bind_ok hemits]
  exact ⟨_, rfl⟩

theorem exec_process_of_saveAll_eq_none (hready : w.ready.any out.same = true)
    (hload : Inputs.loadFile w.disk p = .ok (l, events))
    (hsaves : Disk.saveAll out w.disk (l.generate g.runtimeModule).1 = none) :
    ∃ e w', (g.process out p).exec w = (.error e, w') := by
  have hprepare := exec_loadAndPrepare_of_ready g p hready
  simp only [hload] at hprepare
  obtain ⟨_, _, _, _, e, -, -, -, herror⟩ := exec_mapM_emit_of_saveAll_eq_none .wroteFile
    (w := { w with events := w.events ++ events ++ (l.generate g.runtimeModule).2 }) hsaves
  rw [process_eq, exec_bind_ok hprepare]
  simp only [Sum.elim_inr, writeRest]
  rw [exec_bind_error herror]
  exact ⟨e, _, rfl⟩

end Process

section Runs

theorem Works.exec_processAll (hworks : g.Works out steps d d') (hdisk : w.disk = d)
    (hready : w.ready.any out.same = true) (r : Report) :
    ∃ later, (g.processAll out r (steps.map Prod.fst)).exec w =
      (.ok (r.recordSteps steps), { w with disk := d', events := later }) := by
  induction hworks generalizing w r with
  | done =>
      subst hdisk
      exact ⟨w.events, rfl⟩
  | malformed hload hdocument _ ih =>
      subst hdisk
      have hprocess := exec_process_of_error (g := g) hready hload
      rw [if_pos hdocument] at hprocess
      rw [List.map_cons, processAll, exec_bind_ok hprocess, Report.recordSteps_cons]
      apply ih
      · rfl
      · exact hready
  | compiled hload hsaves _ ih =>
      subst hdisk
      obtain ⟨later, hprocess⟩ := exec_process_of_saveAll hready hload hsaves
      rw [List.map_cons, processAll, exec_bind_ok hprocess, Report.recordSteps_cons]
      apply ih
      · rfl
      · exact hready

theorem exists_works_of_exec_processAll (hready : w.ready.any out.same = true)
    (hall : (g.processAll out r paths).exec w = (.ok report, w')) :
    ∃ steps, g.Works out steps w.disk w'.disk ∧ steps.map Prod.fst = paths ∧
      report = r.recordSteps steps ∧ w'.ready = w.ready := by
  induction paths generalizing w r with
  | nil =>
      obtain ⟨hreport, rfl⟩ := Prod.mk.inj hall
      exact ⟨[], .done, rfl, (Except.ok.inj hreport).symm, rfl⟩
  | cons p paths ih =>
      cases hload : Inputs.loadFile w.disk p with
      | error e =>
          have hprocess := exec_process_of_error (g := g) hready hload
          split at hprocess
          · rename_i hdocument
            rw [processAll, exec_bind_ok hprocess] at hall
            obtain ⟨steps, hworks, rfl, rfl, hsame⟩ := ih (by exact hready) hall
            exact ⟨(p, .malformed e) :: steps, .malformed hload hdocument hworks, rfl, rfl, hsame⟩
          · rw [processAll, exec_bind_error hprocess] at hall
            simp at hall
      | ok compiled =>
          obtain ⟨l, events⟩ := compiled
          cases hsaves : Disk.saveAll out w.disk (l.generate g.runtimeModule).1 with
          | none =>
              obtain ⟨e, _, hprocess⟩ := exec_process_of_saveAll_eq_none hready hload hsaves
              rw [processAll, exec_bind_error hprocess] at hall
              simp at hall
          | some d₁ =>
              obtain ⟨later, hprocess⟩ := exec_process_of_saveAll hready hload hsaves
              rw [processAll, exec_bind_ok hprocess] at hall
              obtain ⟨steps, hworks, rfl, rfl, hsame⟩ := ih (by exact hready) hall
              exact ⟨_ :: steps, .compiled hload hsaves hworks, rfl, rfl, hsame⟩

theorem Works.filter (hworks : g.Works out steps d d') :
    g.Works out (steps.filter fun step => step.2.isCompiled) d d' := by
  induction hworks with
  | done => exact .done
  | malformed _ _ _ ih => exact ih
  | compiled hload hsaves _ ih => exact .compiled hload hsaves ih

end Runs

section Outcomes

theorem liesBelow_of_loadFile (g : Generator) (hload : Inputs.loadFile d p = .ok (l, events)) :
    ∀ file ∈ (l.generate g.runtimeModule).1, file.LiesBelow := by
  intro file hfile
  obtain ⟨artifact, hlies⟩ :=
    Lexicon.liesAt_of_mem_generate (Inputs.validate_of_loadFile hload) hfile
  exact ⟨_, _, hlies⟩

theorem Works.read_eq (hworks : g.Works out steps d d') {bytes : Text.Bytes}
    (hread : d.read p = .ok bytes)
    (hapart : ∀ q ∈ steps.flatMap (·.2.written), d.place p ≠ d.place q) :
    d'.read p = .ok bytes := by
  induction hworks with
  | done => exact hread
  | malformed _ _ _ ih => exact ih hread hapart
  | compiled hload hsaves _ ih =>
      rw [List.flatMap_cons, List.forall_mem_append] at hapart
      have hlies := liesBelow_of_loadFile g hload
      apply ih
      · exact Disk.read_of_saveAll hlies hsaves hread fun file hfile =>
          hapart.1 _ (List.mem_map_of_mem hfile)
      · intro q hq
        rw [Disk.place_of_saveAll hlies hsaves, Disk.place_of_saveAll hlies hsaves]
        exact hapart.2 q hq

theorem Works.outcome_eq (hworks : g.Works out steps d d')
    (hapart : ∀ p ∈ steps.map Prod.fst, ∀ q ∈ steps.flatMap (·.2.written), d.place p ≠ d.place q) :
    steps = (steps.map Prod.fst).map fun p => (p, g.outcomeOf out d' p) := by
  induction hworks with
  | done => rfl
  | @malformed p e rest d d' hload hdocument hrest ih =>
      rw [List.map_cons, List.forall_mem_cons] at hapart
      have hfirst : g.outcomeOf out d' p = .malformed e := by
        obtain ⟨bytes, hread⟩ := Inputs.exists_read_of_loadFile (d := d) (p := p) fun e' he' => by
          rw [hload] at he'
          exact Except.error.inj he' ▸ hdocument
        have hread' : d'.read p = .ok bytes := hrest.read_eq hread hapart.1
        rw [outcomeOf, ← Inputs.loadFile_congr (hread.trans hread'.symm), hload]
      rw [List.map_cons, List.map_cons, hfirst, ← ih hapart.2]
  | @compiled p l events rest d d₁ d' hload hsaves hrest ih =>
      have hlies := liesBelow_of_loadFile g hload
      have hplace := Disk.place_of_saveAll hlies hsaves
      rw [List.map_cons, List.forall_mem_cons] at hapart
      have hfirst : g.outcomeOf out d' p = .compiled l (g.filePaths out l) := by
        obtain ⟨bytes, hread⟩ := Inputs.exists_read_of_loadFile (d := d) (p := p) fun e' he' => by
          rw [hload] at he'
          simp at he'
        have hread' : d'.read p = .ok bytes :=
          (Works.compiled hload hsaves hrest).read_eq hread hapart.1
        rw [outcomeOf, ← Inputs.loadFile_congr (hread.trans hread'.symm), hload]
      rw [List.map_cons, List.map_cons, hfirst, ← ih]
      intro q hq q' hq'
      rw [hplace, hplace]
      exact hapart.2 q hq q' (by rw [List.flatMap_cons]; exact List.mem_append_right _ hq')

end Outcomes

section Reports

/-- The lexicons of the documents at paths, as they are on a disk. -/
def lexiconsAt (d : Disk) (paths : List Path) : List Lexicon :=
  paths.filterMap fun p => (Inputs.loadFile d p).toOption.map Prod.fst

/-- The errors of the documents at paths. -/
def errorsAt (d : Disk) (paths : List Path) : List (Path × Error) :=
  paths.filterMap fun p =>
    match Inputs.loadFile d p with
    | .ok _ => none
    | .error e => some (p, e)

theorem recordSteps_outcomeOf (g : Generator) (out : Path) (d : Disk) (paths : List Path)
    (r : Report) :
    r.recordSteps (paths.map fun p => (p, g.outcomeOf out d p)) =
      { written := r.written ++ (lexiconsAt d paths).flatMap (g.filePaths out)
        empty := r.empty ++ ((lexiconsAt d paths).filter fun l => Artifact.plan l = []).map (·.nsid)
        malformed := r.malformed ++ errorsAt d paths
        lexicons := r.lexicons ++ lexiconsAt d paths } := by
  induction paths generalizing r with
  | nil => simp [Report.recordSteps, lexiconsAt, errorsAt]
  | cons p paths ih =>
      rw [List.map_cons, Report.recordSteps_cons, ih]
      cases hload : Inputs.loadFile d p with
      | error e =>
          have hlexicons : lexiconsAt d (p :: paths) = lexiconsAt d paths := by
            simp [lexiconsAt, hload, Except.toOption]
          have herrors : errorsAt d (p :: paths) = (p, e) :: errorsAt d paths := by
            simp [errorsAt, hload]
          simp [outcomeOf, hload, Report.record, hlexicons, herrors]
      | ok compiled =>
          have hlexicons : lexiconsAt d (p :: paths) = compiled.1 :: lexiconsAt d paths := by
            simp [lexiconsAt, hload, Except.toOption]
          have herrors : errorsAt d (p :: paths) = errorsAt d paths := by
            simp [errorsAt, hload]
          have hempty : g.filePaths out compiled.1 = [] ↔ Artifact.plan compiled.1 = [] := by
            rw [filePaths, List.map_eq_nil_iff, Lexicon.generate_eq_nil_iff]
          by_cases hplan : Artifact.plan compiled.1 = [] <;>
            simp [outcomeOf, hload, Report.record, hlexicons, herrors, hempty, hplan]

theorem mem_map_fst_errorsAt_iff (g : Generator) (out : Path) (d : Disk) (p : Path)
    (paths : List Path) :
    p ∈ (errorsAt d paths).map Prod.fst ↔ p ∈ paths ∧ (g.outcomeOf out d p).isCompiled = false := by
  simp only [errorsAt, List.mem_map, List.mem_filterMap]
  constructor
  · rintro ⟨⟨_, e⟩, ⟨q, hq, hload⟩, rfl⟩
    cases hfile : Inputs.loadFile d q with
    | ok compiled => simp [hfile] at hload
    | error e' =>
        obtain ⟨rfl, rfl⟩ : q = _ ∧ e' = e := by simpa [hfile] using hload
        exact ⟨hq, by simp [outcomeOf, hfile, Outcome.isCompiled]⟩
  · rintro ⟨hp, houtcome⟩
    cases hfile : Inputs.loadFile d p with
    | ok compiled => simp [outcomeOf, hfile, Outcome.isCompiled] at houtcome
    | error e => exact ⟨(p, e), ⟨p, hp, by simp [hfile]⟩, rfl⟩

theorem filter_isCompiled_outcomeOf (g : Generator) (out : Path) (d : Disk) (paths : List Path) :
    ((paths.map fun p => (p, g.outcomeOf out d p)).filter fun step => step.2.isCompiled).map
        Prod.fst =
      paths.filter fun p => p ∉ (errorsAt d paths).map Prod.fst := by
  rw [List.filter_map, List.map_map]
  have hfirst : (Prod.fst ∘ fun p => (p, g.outcomeOf out d p)) = id := rfl
  rw [hfirst, List.map_id]
  apply List.filter_congr
  intro p hp
  have hmem := mem_map_fst_errorsAt_iff g out d p paths
  cases hcompiled : (g.outcomeOf out d p).isCompiled <;> simp [hmem, hp, hcompiled]

/-- The support files are written, unless the root is ready. -/
def commonPaths (g : Generator) (out : Path) (w : World) : List Path :=
  if w.ready.any out.same then []
  else (supportFiles g.runtimeModule).map fun file => out.join file.path

theorem exec_writeCommon_ok {written : List Path}
    (hcommon : (g.writeCommon out).exec w = (.ok written, w')) :
    written = g.commonPaths out w ∧ (∀ p, w'.disk.place p = w.disk.place p) ∧
      ∀ p bytes, w.disk.read p = .ok bytes →
        (∀ q ∈ written, w.disk.place p ≠ w.disk.place q) → w'.disk.read p = .ok bytes := by
  rcases exec_writeCommon_cases g out w with
    ⟨hready, hexec⟩ | ⟨hready, d', hsaves, hexec⟩ | ⟨-, _, _, _, _, e, -, -, -, hexec⟩
  · rw [hexec] at hcommon
    obtain ⟨hwritten, rfl⟩ := Prod.mk.inj hcommon
    obtain rfl := Except.ok.inj hwritten
    refine ⟨?_, fun p => rfl, fun p bytes hread _ => hread⟩
    rw [commonPaths, if_pos hready]
  · rw [hexec] at hcommon
    obtain ⟨hwritten, rfl⟩ := Prod.mk.inj hcommon
    obtain rfl := Except.ok.inj hwritten
    refine ⟨?_, Disk.place_of_saveAll liesBelow_of_mem_supportFiles hsaves, ?_⟩
    · rw [commonPaths, if_neg (by simp [hready])]
    · intro p bytes hread hapart
      exact Disk.read_of_saveAll liesBelow_of_mem_supportFiles hsaves hread fun file hfile =>
        hapart _ (List.mem_map_of_mem hfile)
  · rw [hexec] at hcommon
    simp at hcommon

theorem Works.isDocumentError (hworks : g.Works out steps d d') {e : Error}
    (hstep : (p, .malformed e) ∈ steps) : e.isDocumentError = true := by
  induction hworks with
  | done => simp at hstep
  | malformed _ hdocument _ ih =>
      rcases List.mem_cons.mp hstep with heq | hstep
      · obtain ⟨-, rfl⟩ : _ ∧ e = _ := by simpa using heq
        exact hdocument
      · exact ih hstep
  | compiled _ _ _ ih =>
      rcases List.mem_cons.mp hstep with heq | hstep
      · simp at heq
      · exact ih hstep

theorem written_recordSteps (r : Report) (steps : List (Path × Outcome)) :
    (r.recordSteps steps).written = r.written ++ steps.flatMap (·.2.written) := by
  induction steps generalizing r with
  | nil => simp [Report.recordSteps]
  | cons step steps ih =>
      rw [Report.recordSteps_cons, ih, List.flatMap_cons, ← List.append_assoc]
      obtain ⟨p, outcome⟩ := step
      cases outcome <;> simp [Report.record, Outcome.written]

/-- The report of a run that works on documents in turn. If no file is written where a document
lies, each document has its lexicon or its error in the report, in order and as the disk has it
after the run, which is what it was before for a document that could be read then; the errors are
those of malformed documents. The files written are the support files, unless the root was ready,
and those of each lexicon; the lexicons without code are the ones with nothing planned. And a run
without the malformed documents leaves the same disk and has the same report, apart from these. -/
theorem writeDocuments_report_exact (g : Generator) (paths : List Path) (out : Path) (jobs : Nat)
    (hjobs : jobs ≤ 1) (start final : World) (report : Report)
    (hrun : (g.writeDocuments paths out jobs).exec start = (.ok report, final))
    (hapart : ∀ p ∈ paths, ∀ q ∈ report.written, start.disk.place p ≠ start.disk.place q) :
    report.lexicons = lexiconsAt final.disk paths ∧
      report.malformed = errorsAt final.disk paths ∧
      (∀ entry ∈ report.malformed, entry.2.isDocumentError = true) ∧
      (∀ p ∈ paths, ∀ bytes, start.disk.read p = .ok bytes →
        Inputs.loadFile start.disk p = Inputs.loadFile final.disk p) ∧
      report.written = g.commonPaths out start ++ report.lexicons.flatMap (g.filePaths out) ∧
      report.empty = (report.lexicons.filter fun l => Artifact.plan l = []).map (·.nsid) ∧
      ∃ final', (g.writeDocuments (paths.filter fun p => p ∉ report.malformed.map Prod.fst) out
          jobs).exec start = (.ok { report with malformed := [] }, final') ∧
        final'.disk = final.disk ∧ final'.ready = final.ready := by
  rw [writeDocuments, writeDocumentsBy] at hrun
  rcases hcommon : (g.writeCommon out).exec start with ⟨e | written, w⟩
  · rw [exec_bind_error hcommon] at hrun
    simp at hrun
  · rw [exec_bind_ok hcommon, if_pos (.inl hjobs)] at hrun
    have hready := ready_of_exec_writeCommon hcommon
    obtain ⟨hwritten, hplace, hread⟩ := exec_writeCommon_ok hcommon
    obtain ⟨steps, hworks, hpaths, hreport, hsame⟩ := exists_works_of_exec_processAll hready hrun
    have hfiles : report.written = written ++ steps.flatMap (·.2.written) := by
      rw [hreport, written_recordSteps]
    have hsteps : steps = paths.map fun p => (p, g.outcomeOf out final.disk p) := by
      rw [← hpaths]
      apply hworks.outcome_eq
      intro p hp q hq
      rw [hplace, hplace]
      refine hapart p (hpaths ▸ hp) q ?_
      rw [hfiles]
      exact List.mem_append_right _ hq
    have hexact := recordSteps_outcomeOf g out final.disk paths { written }
    rw [← hsteps, ← hreport] at hexact
    have hlexicons : report.lexicons = lexiconsAt final.disk paths := by rw [hexact]; simp
    have hmalformed : report.malformed = errorsAt final.disk paths := by rw [hexact]; simp
    refine ⟨hlexicons, hmalformed, ?_, ?_, ?_, ?_, ?_⟩
    · rw [hmalformed]
      rintro ⟨p, e⟩ hentry
      obtain ⟨q, hq, hload⟩ := List.mem_filterMap.mp hentry
      apply hworks.isDocumentError (p := p)
      rw [hsteps]
      refine List.mem_map.mpr ⟨q, hq, ?_⟩
      cases hfile : Inputs.loadFile final.disk q with
      | ok compiled => simp [hfile] at hload
      | error e' =>
          obtain ⟨rfl, rfl⟩ : q = p ∧ e' = e := by simpa [hfile] using hload
          simp [outcomeOf, hfile]
    · intro p hp bytes hstart
      have hafter : w.disk.read p = .ok bytes := by
        refine hread p bytes hstart fun q hq => hapart p hp q ?_
        rw [hfiles]
        exact List.mem_append_left _ hq
      have hend : final.disk.read p = .ok bytes := by
        refine hworks.read_eq hafter fun q hq => ?_
        rw [hplace, hplace]
        refine hapart p hp q ?_
        rw [hfiles]
        exact List.mem_append_right _ hq
      exact Inputs.loadFile_congr (hstart.trans hend.symm)
    · rw [hlexicons, hexact, hwritten]
    · rw [hlexicons, hexact]
      simp
    · obtain ⟨later, hagain⟩ := hworks.filter.exec_processAll rfl hready { written }
      rw [Report.recordSteps_filter, ← hreport] at hagain
      have hrest : (steps.filter fun step => step.2.isCompiled).map Prod.fst =
          paths.filter fun p => p ∉ report.malformed.map Prod.fst := by
        rw [hsteps, hmalformed, filter_isCompiled_outcomeOf]
      rw [hrest] at hagain
      refine ⟨{ w with disk := final.disk, events := later }, ?_, rfl, hsame.symm⟩
      rw [writeDocuments, writeDocumentsBy, exec_bind_ok hcommon, if_pos (.inl hjobs)]
      exact hagain

end Reports

section Mixed

/-- A document without code, one that is no document, and one with a record. -/
def mixedDocuments : World where
  disk := { tree := ⟨[
    (["a.json"], .file (Text.encode
      "\x7b\"id\":\"a.b.c\",\"defs\":\x7b\"main\":\x7b\"type\":\"token\"\x7d\x7d\x7d")),
    (["b.json"], .file (Text.encode "\x7b\"id\":\"b\"\x7d")),
    (["c.json"], .file (Text.encode
      "\x7b\"id\":\"c.d.e\",\"defs\":\x7b\"main\":\x7b\"type\":\"record\"\x7d\x7d\x7d"))]⟩ }

/-- The second document is given twice. -/
def mixedPaths : List Path := [⟨"b.json"⟩, ⟨"a.json"⟩, ⟨"c.json"⟩, ⟨"b.json"⟩]

theorem writeDocuments_report_exact_mixed :
    ∃ report final final',
      ((Generator.mk "Lexicon").writeDocuments mixedPaths ⟨"out"⟩ 1).exec mixedDocuments =
          (.ok report, final) ∧
        report.malformed.map Prod.fst = [⟨"b.json"⟩, ⟨"b.json"⟩] ∧
        report.lexicons.map (·.nsid) = ["a.b.c", "c.d.e"] ∧
        report.empty = (report.lexicons.filter fun l => Artifact.plan l = []).map (·.nsid) ∧
        report.written = (Generator.mk "Lexicon").commonPaths ⟨"out"⟩ mixedDocuments ++
          report.lexicons.flatMap ((Generator.mk "Lexicon").filePaths ⟨"out"⟩) ∧
        ((Generator.mk "Lexicon").writeDocuments [⟨"a.json"⟩, ⟨"c.json"⟩] ⟨"out"⟩ 1).exec
          mixedDocuments = (.ok { report with malformed := [] }, final') ∧
        final'.disk = final.disk := by
  have hfacts : (((Generator.mk "Lexicon").writeDocuments mixedPaths ⟨"out"⟩ 1).exec
        mixedDocuments).1.toOption.map (fun report =>
          (report.malformed.map Prod.fst, report.lexicons.map (·.nsid))) =
        some ([⟨"b.json"⟩, ⟨"b.json"⟩], ["a.b.c", "c.d.e"]) ∧
      ∀ p ∈ mixedPaths, ∀ q ∈ ((((Generator.mk "Lexicon").writeDocuments mixedPaths ⟨"out"⟩ 1).exec
        mixedDocuments).1.toOption.map (·.written)).getD [],
          mixedDocuments.disk.place p ≠ mixedDocuments.disk.place q := by
    decide +kernel
  rcases hrun : ((Generator.mk "Lexicon").writeDocuments mixedPaths ⟨"out"⟩ 1).exec mixedDocuments
    with ⟨e | report, final⟩
  · rw [hrun] at hfacts
    exact absurd hfacts.1 (by simp [Except.toOption])
  · rw [hrun] at hfacts
    obtain ⟨hreport, hapart⟩ := hfacts
    obtain ⟨hmalformed, hnsids⟩ := Prod.mk.inj (Option.some.inj hreport)
    obtain ⟨-, -, -, -, hwritten, hempty, final', hagain, hdisk, -⟩ :=
      writeDocuments_report_exact (Generator.mk "Lexicon") mixedPaths ⟨"out"⟩ 1 (Nat.le_refl 1)
        mixedDocuments final report hrun hapart
    rw [hmalformed] at hagain
    exact ⟨report, final, final', rfl, hmalformed, hnsids, hempty, hwritten, hagain, hdisk⟩

end Mixed

end Generator

end Lexgen
