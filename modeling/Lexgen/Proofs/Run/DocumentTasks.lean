import Lexgen.Generator.Parallel
import Lexgen.Proofs.Run.Actions
import Lexgen.Proofs.Run.PoolCompletion

namespace Lexgen

namespace Work

variable {σ τ ρ : Type}

/-- Task by task, `work.Finishes task s result s'` says that the steps of a task, taken without an
interruption from the shared state `s`, end it with `result` and leave `s'`. -/
inductive Finishes (work : Work σ τ ρ) : τ → σ → ρ → σ → Prop
  | last {task : τ} {s s' : σ} {result : ρ} :
      work.advance task s = (s', .inr result) → Finishes work task s result s'
  | next {task task' : τ} {s s' s'' : σ} {result : ρ} :
      work.advance task s = (s', .inl task') → Finishes work task' s' result s'' →
        Finishes work task s result s''

end Work

theorem Lexicon.length_generate_le (lexicon : Lexicon) (runtimeModule : String) :
    (lexicon.generate runtimeModule).1.length ≤ 3 := by
  have hplan : (Artifact.plan lexicon).length ≤ 3 := by
    simp only [Artifact.plan, List.length_append]
    split <;> split <;> split <;> simp
  simp only [Lexicon.generate, List.length_map]
  exact Nat.le_trans (List.length_filterMap_le _ _) hplan

namespace Generator

open Lexgen.Action

theorem exec_load (p : Path) (w : World) :
    (load p).exec w =
      match Inputs.loadFile w.disk p with
      | .ok (lexicon, events) => (.ok (.inr lexicon), { w with events := w.events ++ events })
      | .error e =>
        if e.isDocumentError then
          (.ok (.inl (.malformed e)),
            { w with events := w.events ++ [.skippedMalformed p e.message] })
        else (.error e, w) := by
  have hfile := exec_loadFile p w
  rw [load, exec_tryCatch]
  cases hload : Inputs.loadFile w.disk p with
  | error e =>
      rw [hload] at hfile
      rw [exec_bind_error hfile]
      simp only
      split <;> rfl
  | ok compiled =>
      rw [hload] at hfile
      rw [exec_bind_ok hfile]
      rfl

theorem exec_writeCommon_of_ready (g : Generator) {out : Path} {w : World}
    (hready : w.ready.any out.same = true) : (g.writeCommon out).exec w = (.ok [], w) := by
  rw [writeCommon, exec_bind_ok (exec_get w), if_pos hready]
  rfl

theorem exec_prepare_of_ready (g : Generator) (lexicon : Lexicon) {out : Path} {w : World}
    (hready : w.ready.any out.same = true) :
    (g.prepare lexicon out).exec w =
      (.ok (lexicon.generate g.runtimeModule).1,
        { w with events := w.events ++ (lexicon.generate g.runtimeModule).2 }) := by
  rw [prepare, exec_bind_ok (exec_writeCommon_of_ready g hready)]
  rfl

theorem exec_loadAndPrepare_of_ready (g : Generator) (p : Path) {out : Path} {w : World}
    (hready : w.ready.any out.same = true) :
    (g.loadAndPrepare out p).exec w =
      match Inputs.loadFile w.disk p with
      | .ok (lexicon, events) =>
        (.ok (.inr (lexicon, (lexicon.generate g.runtimeModule).1)),
          { w with events := w.events ++ events ++ (lexicon.generate g.runtimeModule).2 })
      | .error e =>
        if e.isDocumentError then
          (.ok (.inl (.malformed e)),
            { w with events := w.events ++ [.skippedMalformed p e.message] })
        else (.error e, w) := by
  have hload := exec_load p w
  rw [loadAndPrepare]
  cases hfile : Inputs.loadFile w.disk p with
  | error e =>
      simp only [hfile] at hload ⊢
      split at hload
      · rw [exec_bind_ok hload]
        rename_i hdocument
        rw [if_pos hdocument]
        rfl
      · rw [exec_bind_error hload]
        rename_i hdocument
        rw [if_neg hdocument]
  | ok compiled =>
      simp only [hfile] at hload ⊢
      rw [exec_bind_ok hload]
      exact exec_bind_ok (exec_prepare_of_ready g compiled.1 (by simpa using hready)) _

theorem afterAction_eq {α : Type} (action : Action α)
    (next : α → Task ⊕ Except Error Outcome) (w : World) :
    afterAction action next w =
      match action.exec w with
      | (.ok a, w') => (w', next a)
      | (.error e, w') => (w', .inr (.error e)) := rfl

variable (g : Generator) (out : Path) (paths : List Path)

/-- The rest of the work on a document of which some files are written. -/
def writeRest (lexicon : Lexicon) (files : List SourceFile) (written : List Path) :
    Action Outcome := do
  let later ← files.mapM (Action.emit out .wroteFile)
  conclude lexicon (written ++ later)
  return .compiled lexicon (written ++ later)

theorem finishes_write (lexicon : Lexicon) (files : List SourceFile) (written : List Path)
    (w : World) :
    (g.work out paths).Finishes (.write lexicon files written) w
      ((writeRest out lexicon files written).exec w).1
      ((writeRest out lexicon files written).exec w).2 := by
  induction files generalizing written w with
  | nil =>
      apply Work.Finishes.last
      simp only [work, Task.advance, afterAction_eq, writeRest, List.mapM_nil, pure_bind,
        List.append_nil]
      rcases hconclude : (conclude lexicon written).exec w with ⟨_ | a, w'⟩
      · rw [exec_bind_error hconclude]
      · rw [exec_bind_ok hconclude]
        rfl
  | cons file files ih =>
      rcases hemit : (Action.emit out .wroteFile file).exec w with ⟨e | path, w'⟩
      · have hrest : (writeRest out lexicon (file :: files) written).exec w = (.error e, w') := by
          simp only [writeRest, List.mapM_cons, bind_assoc]
          exact exec_bind_error hemit _
        rw [hrest]
        apply Work.Finishes.last
        simp only [work, Task.advance, afterAction_eq, hemit]
      · have hrest : (writeRest out lexicon (file :: files) written).exec w =
            (writeRest out lexicon files (written ++ [path])).exec w' := by
          simp only [writeRest, List.mapM_cons, bind_assoc, pure_bind, List.append_assoc,
            List.singleton_append]
          exact exec_bind_ok hemit _
        rw [hrest]
        apply Work.Finishes.next ?_ (ih (written ++ [path]) w')
        simp only [work, Task.advance, afterAction_eq, hemit]

theorem process_eq (p : Path) :
    g.process out p = g.loadAndPrepare out p >>= Sum.elim pure fun (lexicon, files) =>
      writeRest out lexicon files [] := by
  simp only [process, loadAndPrepare, bind_assoc]
  refine bind_congr fun loaded => ?_
  cases loaded with
  | inl outcome => simp
  | inr lexicon => simp [writeLexicon, writeRest]

theorem finishes_process (p : Path) (w : World) :
    (g.work out paths).Finishes (.load p) w ((g.process out p).exec w).1
      ((g.process out p).exec w).2 := by
  rw [process_eq]
  rcases hload : (g.loadAndPrepare out p).exec w with ⟨e | outcome | ⟨lexicon, files⟩, w'⟩
  · rw [exec_bind_error hload]
    apply Work.Finishes.last
    simp only [work, Task.advance, afterAction_eq, hload]
  · rw [exec_bind_ok hload]
    apply Work.Finishes.last
    simp only [work, Task.advance, afterAction_eq, hload, Sum.elim_inl, exec_pure]
  · rw [exec_bind_ok hload]
    apply Work.Finishes.next ?_ (finishes_write g out paths lexicon files [] w')
    simp only [work, Task.advance, afterAction_eq, hload]

theorem exec_prepare_eq_ok {lexicon : Lexicon} {files : List SourceFile} {w w' : World}
    (hprepare : (g.prepare lexicon out).exec w = (.ok files, w')) :
    files = (lexicon.generate g.runtimeModule).1 := by
  obtain ⟨_, _, -, hrest⟩ := exec_bind_eq_ok hprepare
  obtain ⟨_, _, -, hfiles⟩ := exec_bind_eq_ok hrest
  simp only [exec_pure, Prod.mk.injEq, Except.ok.injEq] at hfiles
  exact hfiles.1.symm

theorem exec_loadAndPrepare_eq_ok {p : Path} {lexicon : Lexicon} {files : List SourceFile}
    {w w' : World} (hload : (g.loadAndPrepare out p).exec w = (.ok (.inr (lexicon, files)), w')) :
    files = (lexicon.generate g.runtimeModule).1 := by
  obtain ⟨loaded, _, -, hrest⟩ := exec_bind_eq_ok hload
  cases loaded with
  | inl outcome => simp at hrest
  | inr lexicon' =>
      obtain ⟨files', w'', hprepare, hpure⟩ := exec_bind_eq_ok hrest
      simp only [exec_pure, Prod.mk.injEq, Except.ok.injEq, Sum.inr.injEq] at hpure
      obtain ⟨⟨rfl, rfl⟩, -⟩ := hpure
      exact exec_prepare_eq_ok g out hprepare

/-- The writes that a document under way has before it; at most three while it is not loaded. -/
def Task.steps : Task → Nat
  | .load _ => 4
  | .write _ files _ => files.length

theorem bounded_work : (g.work out paths).Bounded Task.steps 4 where
  start _ := Nat.le_refl 4
  advance := by
    intro task next w hnext
    cases task with
    | load p =>
        simp only [work, Task.advance, afterAction_eq] at hnext
        rcases hload : (g.loadAndPrepare out p).exec w with ⟨_ | _ | ⟨lexicon, files⟩, w'⟩
        · simp [hload] at hnext
        · simp [hload] at hnext
        · have hfiles := exec_loadAndPrepare_eq_ok g out hload
          have hlength := lexicon.length_generate_le g.runtimeModule
          rw [← hfiles] at hlength
          simp only [hload, Sum.inl.injEq] at hnext
          subst hnext
          simp only [Task.steps]
          omega
    | write lexicon files written =>
        cases files with
        | nil =>
            simp only [work, Task.advance, afterAction_eq] at hnext
            rcases hconclude : (conclude lexicon written).exec w with ⟨_ | _, w'⟩ <;>
              simp [hconclude] at hnext
        | cons file files =>
            simp only [work, Task.advance, afterAction_eq] at hnext
            rcases hemit : (Action.emit out .wroteFile file).exec w with ⟨_ | path, w'⟩
            · simp [hemit] at hnext
            · simp only [hemit, Sum.inl.injEq] at hnext
              subst hnext
              simp [Task.steps]

theorem isDone_turns (jobs : Nat) (w : World) :
    ((WorkerPool.ofSize (min jobs paths.length) w).run (g.work out paths)
      (turns jobs paths.length)).isDone = true := by
  refine WorkerPool.isDone_run_ofSize (g.bounded_work out paths) _ w fun k hk => ?_
  have hcount : (g.work out paths).count = paths.length := rfl
  rw [turns, WorkerPool.count_roundRobin hk, hcount]
  simp only [WorkerPool.stepsPerTask, roundsFor, stepsPerDocument]
  omega

end Generator

end Lexgen
