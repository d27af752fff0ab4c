import Lexgen.Proofs.Run.Emission
import Mathlib.Logic.Relation

namespace Lexgen

/-- Whether an event says that a file was written. -/
def Event.isWrite : Event → Bool
  | .wroteCommonFile _ => true
  | .wroteFile _ => true
  | _ => false

section Notes

theorem Emit.isWrite_of_mem_checkSteps (fields : List Schema.Field) :
    ∀ e ∈ (checkSteps fields).2, e.isWrite = false := by
  induction fields with
  | nil => simp [checkSteps]
  | cons f rest ih =>
      simp only [checkSteps]
      split
      · exact ih
      · split
        · exact List.forall_mem_cons.mpr ⟨rfl, ih⟩
        · exact ih

theorem Emit.Param.isWrite_of_mem_namesAvoiding (taken : List String) (fields : List Schema.Field) :
    ∀ e ∈ (namesAvoiding taken fields).2, e.isWrite = false := by
  induction fields generalizing taken with
  | nil => simp [namesAvoiding]
  | cons f rest ih =>
      simp only [namesAvoiding]
      split
      · exact ih taken
      · split
        · exact List.forall_mem_cons.mpr ⟨rfl, ih _⟩
        · exact ih _

namespace Lexicon

theorem isWrite_of_artifact? {l : Lexicon} {runtimeModule contents : String} {artifact : Artifact}
    {events : List Event}
    (hartifact : l.artifact? runtimeModule artifact = some (contents, events)) :
    ∀ e ∈ events, e.isWrite = false := by
  cases artifact with
  | structs =>
      rw [artifact?] at hartifact
      split at hartifact
      · simp at hartifact
      · obtain ⟨-, rfl⟩ := Prod.mk.inj (Option.some.inj hartifact)
        simp
  | schema =>
      obtain ⟨d, -, hevents⟩ := Option.map_eq_some_iff.mp hartifact
      obtain ⟨-, rfl⟩ := Prod.mk.inj hevents
      exact Emit.isWrite_of_mem_checkSteps d.fields
  | call =>
      obtain ⟨⟨kind, d⟩, -, hevents⟩ := Option.map_eq_some_iff.mp hartifact
      obtain ⟨-, rfl⟩ := Prod.mk.inj hevents
      exact Emit.Param.isWrite_of_mem_namesAvoiding _ d.inputFields

theorem isWrite_of_mem_generate (l : Lexicon) (runtimeModule : String) :
    ∀ e ∈ (l.generate runtimeModule).2, e.isWrite = false := by
  intro e he
  simp only [generate, List.mem_flatMap, List.mem_filterMap] at he
  obtain ⟨_, ⟨artifact, -, hemitted⟩, he⟩ := he
  obtain ⟨⟨contents, events⟩, hartifact, rfl⟩ := Option.map_eq_some_iff.mp hemitted
  exact isWrite_of_artifact? hartifact e he

theorem isWrite_of_mem_addEntry (nsid : String) (ds : Definitions) (key : String) (node : Json) :
    ∀ e ∈ (addEntry nsid ds key node).2, e.isWrite = false := by
  rw [addEntry]
  cases Definition.ofNode nsid key node with
  | error kind => simp [Event.isWrite]
  | ok d => rcases hoffer : ds.offer d with ⟨ds', _ | rejected⟩ <;> simp [hoffer, Event.isWrite]

theorem isWrite_of_mem_addEntries (nsid : String) (ds : Definitions)
    (entries : List (String × Json)) :
    ∀ e ∈ (addEntries nsid ds entries).2, e.isWrite = false := by
  induction entries generalizing ds with
  | nil => simp [addEntries]
  | cons entry rest ih =>
      simp only [addEntries, List.forall_mem_append]
      exact ⟨isWrite_of_mem_addEntry nsid ds entry.1 entry.2, ih _⟩

end Lexicon

theorem Inputs.isWrite_of_loadFile {d : Disk} {p : Path} {lexicon : Lexicon} {events : List Event}
    (hload : loadFile d p = .ok (lexicon, events)) : ∀ e ∈ events, e.isWrite = false := by
  obtain ⟨doc, -, hcompiled⟩ := exists_document_of_loadFile hload
  rw [← show (Lexicon.ofDocument doc).2 = events from congrArg Prod.snd hcompiled]
  exact Lexicon.isWrite_of_mem_addEntries doc.id {} doc.defs

end Notes

section Pools

variable {σ τ ρ : Type}

/-- Steps of the work take the shared state along a relation: `inv` holds of the shared states and
`fit` of the tasks that there are. -/
structure Work.Follows (work : Work σ τ ρ) (relation : σ → σ → Prop) (inv : σ → Prop)
    (fit : τ → Prop) : Prop where
  start : ∀ index < work.count, fit (work.start index)
  advance : ∀ task s, fit task → inv s →
    Relation.ReflTransGen relation s (work.advance task s).1 ∧ inv (work.advance task s).1
  goes : ∀ task s next, fit task → inv s → (work.advance task s).2 = .inl next → fit next

namespace WorkerPool

variable {work : Work σ τ ρ} {relation : σ → σ → Prop} {inv : σ → Prop} {fit : τ → Prop}
  {pool : WorkerPool σ τ ρ}

/-- The shared state and the tasks under way are as the work needs them. -/
structure Engaged (inv : σ → Prop) (fit : τ → Prop) (pool : WorkerPool σ τ ρ) : Prop where
  shared : inv pool.shared
  tasks : ∀ w ∈ pool.workers, ∀ index task, w.phase = .working index task → fit task

theorem Engaged.change {pool' : WorkerPool σ τ ρ} {k : Nat} {w' : Worker τ ρ}
    (hpool : pool.Engaged inv fit) (hworkers : pool'.workers = pool.workers.set k w')
    (hshared : inv pool'.shared) (hw' : ∀ index task, w'.phase = .working index task → fit task) :
    pool'.Engaged inv fit where
  shared := hshared
  tasks := by
    intro w hw
    rw [hworkers] at hw
    rcases List.mem_or_eq_of_mem_set hw with hw | rfl
    · exact hpool.tasks w hw
    · exact hw'

theorem Engaged.step (hwork : work.Follows relation inv fit) (hpool : pool.Engaged inv fit)
    (k : Nat) :
    Relation.ReflTransGen relation pool.shared (pool.step work k).shared ∧
      (pool.step work k).Engaged inv fit := by
  rw [WorkerPool.step]
  cases hk : pool.workers[k]? with
  | none => exact ⟨.refl, hpool⟩
  | some w =>
      simp only [stepWorker]
      cases hphase : w.phase with
      | looking =>
          refine ⟨.refl, hpool.change rfl hpool.shared ?_⟩
          cases pool.failed <;> simp
      | taking =>
          refine ⟨.refl, hpool.change rfl hpool.shared ?_⟩
          intro index task
          by_cases hleft : pool.cursor < work.count
          · simp only [if_pos hleft, Phase.working.injEq, and_imp]
            rintro rfl rfl
            exact hwork.start _ hleft
          · simp [if_neg hleft]
      | working index task =>
          have hfit := hpool.tasks w (List.mem_of_getElem? hk) index task hphase
          obtain ⟨hsteps, hinv⟩ := hwork.advance task pool.shared hfit hpool.shared
          refine ⟨hsteps, hpool.change rfl hinv ?_⟩
          have hgoes := hwork.goes task pool.shared
          intro index' task'
          cases hnext : (work.advance task pool.shared).2 with
          | inl next =>
              simp only [Phase.working.injEq, and_imp]
              rintro - rfl
              exact hgoes _ hfit hpool.shared hnext
          | inr result =>
              cases hfailure : work.isFailure result <;> simp [hfailure]
      | telling index result =>
          exact ⟨.refl, hpool.change rfl hpool.shared (by simp)⟩
      | keeping index result =>
          exact ⟨.refl, hpool.change rfl hpool.shared (by simp)⟩
      | exited => exact ⟨.refl, hpool⟩

theorem Engaged.run (hwork : work.Follows relation inv fit) (hpool : pool.Engaged inv fit)
    (schedule : List Nat) :
    Relation.ReflTransGen relation pool.shared (pool.run work schedule).shared := by
  induction schedule generalizing pool with
  | nil => exact .refl
  | cons k schedule ih =>
      obtain ⟨hstep, hpool'⟩ := hpool.step hwork k
      exact hstep.trans (ih hpool')

theorem engaged_ofSize (inv : σ → Prop) (fit : τ → Prop) (size : Nat) {shared : σ}
    (hshared : inv shared) :
    (ofSize size shared : WorkerPool σ τ ρ).Engaged inv fit where
  shared := hshared
  tasks := by
    intro w hw
    obtain ⟨-, rfl⟩ := List.mem_replicate.mp hw
    simp

end WorkerPool

end Pools

namespace Generator

open Lexgen.Action

/-- The effects of calls for the output root `out`. -/
inductive Effect (g : Generator) (out : Path) (w : World) : World → Prop where
  /-- Something else than a write is reported. -/
  | note {events : List Event} :
      (∀ e ∈ events, e.isWrite = false) → Effect g out w { w with events := w.events ++ events }
  /-- All support files are written, and the root becomes ready. -/
  | common {d' : Disk} :
      w.ready.any out.same = false →
      Disk.saveAll out w.disk (supportFiles g.runtimeModule) = some d' →
      Effect g out w
        { disk := d'
          ready := out :: w.ready
          events := w.events ++ (supportFiles g.runtimeModule).map fun file =>
            .wroteCommonFile (out.join file.path) }
  /-- The support files before one that cannot be written are written. -/
  | commonRefused {done later : List SourceFile} {file : SourceFile} {d₁ : Disk} :
      w.ready.any out.same = false →
      supportFiles g.runtimeModule = done ++ file :: later →
      Disk.saveAll out w.disk done = some d₁ → d₁.save out file = none →
      Effect g out w
        { w with
          disk := d₁.afterRefusal out file
          events := w.events ++ done.map fun file => .wroteCommonFile (out.join file.path) }
  /-- A file of a lexicon is written, in a root that is ready. -/
  | artifact {l : Lexicon} {file : SourceFile} {d' : Disk} :
      w.ready.any out.same = true → file ∈ (l.generate g.runtimeModule).1 →
      w.disk.save out file = some d' →
      Effect g out w
        { w with disk := d', events := w.events ++ [.wroteFile (out.join file.path)] }
  | artifactRefused {l : Lexicon} {file : SourceFile} :
      w.ready.any out.same = true → file ∈ (l.generate g.runtimeModule).1 →
      w.disk.save out file = none →
      Effect g out w { w with disk := w.disk.afterRefusal out file }

abbrev Effects (g : Generator) (out : Path) : World → World → Prop :=
  Relation.ReflTransGen (g.Effect out)

variable {g : Generator} {out root p : Path} {w w' : World} {l : Lexicon} {α β : Type}

theorem Effects.keeps {P : World → Prop} (hkeeps : ∀ {w w'}, g.Effect out w w' → P w → P w')
    (heffects : g.Effects out w w') (hw : P w) : P w' := by
  induction heffects with
  | refl => exact hw
  | tail _ heffect ih => exact hkeeps heffect ih

theorem Effect.ready_any (heffect : g.Effect out w w') (hready : w.ready.any root.same = true) :
    w'.ready.any root.same = true := by
  cases heffect with
  | common _ _ => simp [hready]
  | _ => exact hready

theorem effects_bind {action : Action α} {next : α → Action β}
    (haction : g.Effects out w (action.exec w).2)
    (hnext : ∀ a w', action.exec w = (.ok a, w') → g.Effects out w' ((next a).exec w').2) :
    g.Effects out w ((action >>= next).exec w).2 := by
  rcases hexec : action.exec w with ⟨e | a, w'⟩
  · rw [exec_bind_error hexec]
    rw [hexec] at haction
    exact haction
  · rw [exec_bind_ok hexec]
    rw [hexec] at haction
    exact haction.trans (hnext a w' hexec)

theorem effects_report {events : List Event} (hevents : ∀ e ∈ events, e.isWrite = false) :
    g.Effects out w ((report events).exec w).2 :=
  .single (.note hevents)

theorem effects_writeCommon (g : Generator) (out : Path) (w : World) :
    g.Effects out w ((g.writeCommon out).exec w).2 := by
  rcases exec_writeCommon_cases g out w with
    ⟨-, hexec⟩ | ⟨hready, d', hsaves, hexec⟩ |
      ⟨hready, done, file, later, d₁, e, hfiles, hdone, hfile, hexec⟩
  · rw [hexec]
  · rw [hexec]
    exact .single (.common hready hsaves)
  · rw [hexec]
    exact .single (.commonRefused hready hfiles hdone hfile)

theorem effects_emit (hready : w.ready.any out.same = true) {file : SourceFile}
    (hfile : file ∈ (l.generate g.runtimeModule).1) :
    g.Effects out w ((emit out .wroteFile file).exec w).2 := by
  cases hsave : w.disk.save out file with
  | some d' =>
      rw [exec_emit_of_save .wroteFile hsave]
      exact .single (.artifact hready hfile hsave)
  | none =>
      obtain ⟨e, herror⟩ := exec_emit_of_save_eq_none .wroteFile hsave
      rw [herror]
      exact .single (.artifactRefused hready hfile hsave)

theorem effects_mapM_emit (hready : w.ready.any out.same = true) {files : List SourceFile}
    (hfiles : ∀ file ∈ files, file ∈ (l.generate g.runtimeModule).1) :
    g.Effects out w ((files.mapM (emit out .wroteFile)).exec w).2 := by
  induction files generalizing w with
  | nil => exact .refl
  | cons file files ih =>
      rw [List.forall_mem_cons] at hfiles
      rw [List.mapM_cons]
      have hfirst := effects_emit hready hfiles.1
      apply effects_bind hfirst
      intro path w₁ hemit
      apply effects_bind
      · rw [hemit] at hfirst
        exact ih (hfirst.keeps Effect.ready_any hready) hfiles.2
      · intro paths w₂ _
        exact .refl

theorem effects_conclude (l : Lexicon) (written : List Path) (w : World) :
    g.Effects out w ((conclude l written).exec w).2 := by
  apply effects_report
  intro e he
  split at he <;> simp_all [Event.isWrite]

theorem effects_writeRest (hready : w.ready.any out.same = true) {files : List SourceFile}
    (hfiles : ∀ file ∈ files, file ∈ (l.generate g.runtimeModule).1) (written : List Path) :
    g.Effects out w ((writeRest out l files written).exec w).2 := by
  apply effects_bind (effects_mapM_emit hready hfiles)
  intro later w' _
  apply effects_bind (effects_conclude l _ w')
  intro _ _ _
  exact .refl

theorem effects_prepare (g : Generator) (l : Lexicon) (out : Path) (w : World) :
    g.Effects out w ((g.prepare l out).exec w).2 := by
  apply effects_bind (effects_writeCommon g out w)
  intro _ w' _
  apply effects_bind (effects_report (Lexicon.isWrite_of_mem_generate l g.runtimeModule))
  intro _ _ _
  exact .refl

theorem ready_of_exec_prepare {files : List SourceFile}
    (hprepare : (g.prepare l out).exec w = (.ok files, w')) : w'.ready.any out.same = true := by
  obtain ⟨_, w₁, hcommon, hrest⟩ := exec_bind_eq_ok hprepare
  have hready := ready_of_exec_writeCommon hcommon
  obtain ⟨_, w₂, hreport, hpure⟩ := exec_bind_eq_ok hrest
  obtain ⟨-, rfl⟩ := Prod.mk.inj hreport
  obtain ⟨-, rfl⟩ := Prod.mk.inj hpure
  exact hready

theorem effects_load (g : Generator) (out p : Path) (w : World) :
    g.Effects out w ((load p).exec w).2 := by
  rw [exec_load]
  cases hload : Inputs.loadFile w.disk p with
  | ok compiled => exact .single (.note (Inputs.isWrite_of_loadFile hload))
  | error e =>
      simp only
      split
      · exact .single (.note (by simp [Event.isWrite]))
      · exact .refl

theorem effects_loadAndPrepare (g : Generator) (out p : Path) (w : World) :
    g.Effects out w ((g.loadAndPrepare out p).exec w).2 := by
  apply effects_bind (effects_load g out p w)
  intro loaded w' _
  cases loaded with
  | inl outcome => exact .refl
  | inr l =>
      apply effects_bind (effects_prepare g l out w')
      intro _ _ _
      exact .refl

theorem ready_of_exec_loadAndPrepare {files : List SourceFile}
    (hload : (g.loadAndPrepare out p).exec w = (.ok (.inr (l, files)), w')) :
    w'.ready.any out.same = true := by
  obtain ⟨loaded, w₁, -, hrest⟩ := exec_bind_eq_ok hload
  cases loaded with
  | inl outcome => simp at hrest
  | inr l' =>
      obtain ⟨files', w₂, hprepare, hpure⟩ := exec_bind_eq_ok hrest
      obtain ⟨-, rfl⟩ := Prod.mk.inj hpure
      exact ready_of_exec_prepare hprepare

theorem effects_writeLexicon (g : Generator) (l : Lexicon) (out : Path) (w : World) :
    g.Effects out w ((g.writeLexicon l out).exec w).2 := by
  apply effects_bind (effects_prepare g l out w)
  intro files w' hprepare
  have hfiles := exec_prepare_eq_ok g out hprepare
  have hready := ready_of_exec_prepare hprepare
  apply effects_bind (effects_mapM_emit (l := l) hready (by simp [hfiles]))
  intro written w'' _
  apply effects_bind (effects_conclude l written w'')
  intro _ _ _
  exact .refl

theorem effects_process (g : Generator) (out p : Path) (w : World) :
    g.Effects out w ((g.process out p).exec w).2 := by
  rw [process_eq]
  apply effects_bind (effects_loadAndPrepare g out p w)
  intro loaded w' hload
  rcases loaded with outcome | ⟨l, files⟩
  · exact .refl
  · have hfiles := exec_loadAndPrepare_eq_ok g out hload
    exact effects_writeRest (l := l) (ready_of_exec_loadAndPrepare hload) (by simp [hfiles]) []

theorem effects_processAll (g : Generator) (out : Path) (r : Report) (paths : List Path)
    (w : World) : g.Effects out w ((g.processAll out r paths).exec w).2 := by
  induction paths generalizing r w with
  | nil => exact .refl
  | cons p paths ih =>
      apply effects_bind (effects_process g out p w)
      intro outcome w' _
      exact ih _ w'

/-- What is left to write of a document are files of its lexicon. -/
def Task.OfLexicon (g : Generator) : Task → Prop
  | .load _ => True
  | .write l files _ => ∀ file ∈ files, file ∈ (l.generate g.runtimeModule).1

theorem effects_afterAction {action : Action α} (next : α → Task ⊕ Except Error Outcome)
    (haction : g.Effects out w (action.exec w).2) :
    g.Effects out w (afterAction action next w).1 := by
  rw [afterAction_eq]
  rcases hexec : action.exec w with ⟨e | a, w'⟩
  · rw [hexec] at haction
    exact haction
  · rw [hexec] at haction
    exact haction

theorem effects_advance (paths : List Path) {task : Task} (htask : task.OfLexicon g)
    (hready : w.ready.any out.same = true) :
    g.Effects out w ((g.work out paths).advance task w).1 := by
  cases task with
  | load p => exact effects_afterAction _ (effects_loadAndPrepare g out p w)
  | write l files written =>
      cases files with
      | nil => exact effects_afterAction _ (effects_conclude l written w)
      | cons file files =>
          exact effects_afterAction _ (effects_emit hready (htask file List.mem_cons_self))

theorem ofLexicon_of_advance (paths : List Path) {task next : Task} (htask : task.OfLexicon g)
    (hnext : ((g.work out paths).advance task w).2 = .inl next) : next.OfLexicon g := by
  cases task with
  | load p =>
      simp only [work, Task.advance, afterAction_eq] at hnext
      rcases hload : (g.loadAndPrepare out p).exec w with ⟨_ | _ | ⟨l, files⟩, w'⟩
      · simp [hload] at hnext
      · simp [hload] at hnext
      · rw [hload] at hnext
        obtain rfl := Sum.inl.inj hnext
        intro file hfile
        rw [← exec_loadAndPrepare_eq_ok g out hload]
        exact hfile
  | write l files written =>
      cases files with
      | nil =>
          simp only [work, Task.advance, afterAction_eq] at hnext
          rcases hconclude : (conclude l written).exec w with ⟨_ | _, w'⟩ <;>
            simp [hconclude] at hnext
      | cons file files =>
          simp only [work, Task.advance, afterAction_eq] at hnext
          rcases hemit : (emit out .wroteFile file).exec w with ⟨_ | path, w'⟩
          · simp [hemit] at hnext
          · rw [hemit] at hnext
            obtain rfl := Sum.inl.inj hnext
            exact (List.forall_mem_cons.mp htask).2

theorem follows_work (g : Generator) (out : Path) (paths : List Path) :
    (g.work out paths).Follows (g.Effect out) (fun w => w.ready.any out.same = true)
      (Task.OfLexicon g) where
  start _ _ := trivial
  advance := by
    intro task w htask hready
    have heffects := effects_advance paths htask hready
    exact ⟨heffects, heffects.keeps Effect.ready_any hready⟩
  goes := by
    intro task w next htask _ hnext
    exact ofLexicon_of_advance paths htask hnext

theorem effects_processPooled (g : Generator) (out : Path) (jobs : Nat) (schedule : List Nat)
    (r : Report) (paths : List Path) (hready : w.ready.any out.same = true) :
    g.Effects out w ((g.processPooled out jobs schedule r paths).exec w).2 := by
  have hpool := WorkerPool.engaged_ofSize (ρ := Except Error Outcome)
    (fun w : World => w.ready.any out.same = true) (Task.OfLexicon g) (min jobs paths.length) hready
  have heffects := hpool.run (g.follows_work out paths) schedule
  rw [processPooled, exec_bind_ok (exec_get w), exec_bind_ok (exec_set w _)]
  split
  · exact heffects
  · exact heffects

theorem effects_writeDocumentsBy (g : Generator) (schedule : List Nat) (paths : List Path)
    (out : Path) (jobs : Nat) (w : World) :
    g.Effects out w ((g.writeDocumentsBy schedule paths out jobs).exec w).2 := by
  apply effects_bind (effects_writeCommon g out w)
  intro written w' hcommon
  split
  · exact effects_processAll g out _ paths w'
  · exact effects_processPooled g out jobs schedule _ paths (ready_of_exec_writeCommon hcommon)

end Generator

end Lexgen
