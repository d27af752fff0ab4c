import Lexgen.Proofs.Run.DocumentTasks
import Lexgen.Proofs.Run.PoolLedger

namespace Lexgen

variable {σ τ ρ α : Type}

namespace Work

/-- Tasks keep track of what they do: `state done s` says what the shared state `s` is when `done`
has been done, in whatever order; `carried task` is what a task has done, and `delivered result`
what a task with that result did. -/
structure Tracks (work : Work σ τ ρ) (state : List α → σ → Prop) (fit : τ → Prop)
    (carried : τ → List α) (delivered : ρ → List α) : Prop where
  perm : ∀ {done done' : List α} {s : σ}, done.Perm done' → state done s → state done' s
  start : ∀ {index : Nat}, index < work.count →
    fit (work.start index) ∧ carried (work.start index) = []
  goes : ∀ {task next : τ} {done : List α} {s s' : σ}, fit task → state (done ++ carried task) s →
    work.advance task s = (s', .inl next) → fit next ∧ state (done ++ carried next) s'
  ends : ∀ {task : τ} {result : ρ} {done : List α} {s s' : σ}, fit task →
    state (done ++ carried task) s → work.advance task s = (s', .inr result) →
      work.isFailure result = false → state (done ++ delivered result) s'

variable {work : Work σ τ ρ} {state : List α → σ → Prop} {fit : τ → Prop} {carried : τ → List α}
  {delivered : ρ → List α}

theorem Tracks.of_finishes (htracks : work.Tracks state fit carried delivered) {task : τ} {s s' : σ}
    {result : ρ} (hfinishes : work.Finishes task s result s')
    (hresult : work.isFailure result = false) {done : List α} (hfit : fit task)
    (hstate : state (done ++ carried task) s) : state (done ++ delivered result) s' := by
  induction hfinishes with
  | last hadvance => exact htracks.ends hfit hstate hadvance hresult
  | next hadvance _ ih =>
      obtain ⟨hnext, hstate'⟩ := htracks.goes hfit hstate hadvance
      exact ih hresult hnext hstate'

end Work

section Showing

variable (carried : τ → List α) (delivered : ρ → List α)

def Phase.shown : Phase τ ρ → List α
  | .looking => []
  | .taking => []
  | .working _ task => carried task
  | .telling _ result => delivered result
  | .keeping _ result => delivered result
  | .exited => []

/-- What a worker has done. -/
def Worker.shown (w : Worker τ ρ) : List α :=
  w.kept.flatMap (fun entry => delivered entry.2) ++ w.phase.shown carried delivered

end Showing

namespace WorkerPool

/-- The tasks under way are as the work needs them, and the shared state is what the workers
show. -/
structure Tracked (state : List α → σ → Prop) (fit : τ → Prop) (carried : τ → List α)
    (delivered : ρ → List α) (pool : WorkerPool σ τ ρ) : Prop where
  tasks : ∀ w ∈ pool.workers, ∀ index task, w.phase = .working index task → fit task
  shared : state (pool.workers.flatMap (Worker.shown carried delivered)) pool.shared

variable {work : Work σ τ ρ} {state : List α → σ → Prop} {fit : τ → Prop} {carried : τ → List α}
  {delivered : ρ → List α} {pool pool' : WorkerPool σ τ ρ} {k : Nat} {w w' : Worker τ ρ}

section Step

theorem Fails.step (hfails : pool.Fails work) (k : Nat) : (pool.step work k).Fails work := by
  rw [WorkerPool.step]
  split
  · rename_i w hk
    cases hphase : w.phase with
    | exited => simpa only [stepWorker, hphase] using hfails
    | _ =>
        simp only [stepWorker, hphase]
        exact hfails.set hk rfl (by simp [Worker.results, Phase.result?, hphase])
  · exact hfails

theorem exists_flatMap_set_perm {β γ : Type} {xs : List β} {k : Nat} {x : β}
    (hk : xs[k]? = some x) (f : β → List γ) :
    ∃ others, (xs.flatMap f).Perm (others ++ f x) ∧
      ∀ y, (others ++ f y).Perm ((xs.set k y).flatMap f) := by
  obtain ⟨hlength, rfl⟩ := List.getElem?_eq_some_iff.mp hk
  have hset : ∀ y, ((xs.take k ++ xs.drop (k + 1)).flatMap f ++ f y).Perm
      ((xs.set k y).flatMap f) := by
    intro y
    rw [List.set_eq_take_append_cons_drop, if_pos hlength, List.flatMap_append,
      List.flatMap_append, List.flatMap_cons, List.append_assoc]
    exact List.perm_append_comm.append_left _
  refine ⟨_, ?_, hset⟩
  have hself := (hset xs[k]).symm
  rwa [List.set_getElem_self] at hself

theorem Tracked.change (hperm : ∀ {done done' s}, done.Perm done' → state done s → state done' s)
    (hpool : pool.Tracked state fit carried delivered) (hk : pool.workers[k]? = some w)
    (hworkers : pool'.workers = pool.workers.set k w')
    (htask : ∀ index task, w'.phase = .working index task → fit task)
    (hshared : ∀ done, state (done ++ w.shown carried delivered) pool.shared →
      state (done ++ w'.shown carried delivered) pool'.shared) :
    pool'.Tracked state fit carried delivered where
  tasks := by
    intro v hv
    rw [hworkers] at hv
    rcases List.mem_or_eq_of_mem_set hv with hv | rfl
    · exact hpool.tasks v hv
    · exact htask
  shared := by
    obtain ⟨others, hbefore, hafter⟩ := exists_flatMap_set_perm hk (Worker.shown carried delivered)
    rw [hworkers]
    exact hperm (hafter w') (hshared others (hperm hbefore hpool.shared))

theorem Tracked.changePhase (htracks : work.Tracks state fit carried delivered)
    (hpool : pool.Tracked state fit carried delivered) (hk : pool.workers[k]? = some w)
    (hworkers : pool'.workers = pool.workers.set k w') (hshared : pool'.shared = pool.shared)
    (htask : ∀ index task, w'.phase = .working index task → fit task)
    (hshown : w'.shown carried delivered = w.shown carried delivered) :
    pool'.Tracked state fit carried delivered := by
  refine hpool.change htracks.perm hk hworkers htask fun done hstate => ?_
  rw [hshown, hshared]
  exact hstate

theorem Tracked.step_taking (htracks : work.Tracks state fit carried delivered)
    (hpool : pool.Tracked state fit carried delivered) (hk : pool.workers[k]? = some w)
    (hphase : w.phase = .taking) :
    (stepWorker work pool k w).Tracked state fit carried delivered := by
  by_cases hleft : pool.cursor < work.count
  · obtain ⟨hfit, hcarried⟩ := htracks.start hleft
    simp only [stepWorker, hphase, if_pos hleft]
    refine hpool.changePhase htracks hk rfl rfl ?_ ?_
    · simp only [Phase.working.injEq, and_imp]
      rintro index task rfl rfl
      exact hfit
    · simp [Worker.shown, Phase.shown, hphase, hcarried]
  · simp only [stepWorker, hphase, if_neg hleft]
    exact hpool.changePhase htracks hk rfl rfl (by simp)
      (by simp [Worker.shown, Phase.shown, hphase])

theorem Tracked.step_working (htracks : work.Tracks state fit carried delivered)
    (hpool : pool.Tracked state fit carried delivered) (hk : pool.workers[k]? = some w)
    {index : Nat}     {task : τ} (hphase : w.phase = .working index task) :
    (stepWorker work pool k w).Fails work ∨
      (stepWorker work pool k w).Tracked state fit carried delivered := by
  have hfit := hpool.tasks w (List.mem_of_getElem? hk) index task hphase
  -- what is done besides: by the other workers, and by this one before
  have hcarries : ∀ done, done ++ w.shown carried delivered =
      done ++ w.kept.flatMap (fun entry => delivered entry.2) ++ carried task := by
    simp [Worker.shown, Phase.shown, hphase]
  rcases hadvance : work.advance task pool.shared with ⟨s', next | result⟩
  · simp only [stepWorker, hphase, hadvance]
    obtain ⟨others, hbefore, -⟩ := exists_flatMap_set_perm hk (Worker.shown carried delivered)
    have hnext := htracks.goes hfit (hcarries others ▸ htracks.perm hbefore hpool.shared) hadvance
    refine .inr (hpool.change htracks.perm hk rfl ?_ fun done hstate => ?_)
    · simp only [Phase.working.injEq, and_imp]
      rintro _ _ - rfl
      exact hnext.1
    · rw [hcarries] at hstate
      simpa [Worker.shown, Phase.shown] using (htracks.goes hfit hstate hadvance).2
  · by_cases hfailure : work.isFailure result = true
    · simp only [stepWorker, hphase, hadvance, if_pos hfailure]
      exact .inl ⟨_, List.mem_set (List.getElem?_eq_some_iff.mp hk).1 _, result,
        by simp [Worker.results, Phase.result?], hfailure⟩
    · simp only [stepWorker, hphase, hadvance, if_neg hfailure]
      refine .inr (hpool.change htracks.perm hk rfl (by simp) fun done hstate => ?_)
      rw [hcarries] at hstate
      have hends := htracks.ends hfit hstate hadvance (by simpa using hfailure)
      simpa [Worker.shown, Phase.shown] using hends

theorem Tracked.step (htracks : work.Tracks state fit carried delivered)
    (hpool : pool.Tracked state fit carried delivered) (k : Nat) :
    (pool.step work k).Fails work ∨ (pool.step work k).Tracked state fit carried delivered := by
  rw [WorkerPool.step]
  split
  · rename_i w hk
    cases hphase : w.phase with
    | looking =>
        simp only [stepWorker, hphase]
        refine .inr (hpool.changePhase htracks hk rfl rfl ?_ ?_)
        · cases pool.failed <;> simp
        · cases pool.failed <;> simp [Worker.shown, Phase.shown, hphase]
    | taking => exact .inr (hpool.step_taking htracks hk hphase)
    | working index task => exact hpool.step_working htracks hk hphase
    | telling index result =>
        simp only [stepWorker, hphase]
        exact .inr (hpool.changePhase htracks hk rfl rfl (by simp)
          (by simp [Worker.shown, Phase.shown, hphase]))
    | keeping index result =>
        simp only [stepWorker, hphase]
        exact .inr (hpool.changePhase htracks hk rfl rfl (by simp)
          (by simp [Worker.shown, Phase.shown, hphase]))
    | exited => exact .inr (by simpa only [stepWorker, hphase] using hpool)
  · exact .inr hpool

theorem Tracked.run (htracks : work.Tracks state fit carried delivered)
    (hpool : pool.Fails work ∨ pool.Tracked state fit carried delivered) (schedule : List Nat) :
    (pool.run work schedule).Fails work ∨
      (pool.run work schedule).Tracked state fit carried delivered := by
  induction schedule generalizing pool with
  | nil => exact hpool
  | cons k schedule ih =>
      apply ih
      rcases hpool with hfails | hpool
      · exact .inl (hfails.step k)
      · exact hpool.step htracks k

theorem tracked_ofSize (fit : τ → Prop) (carried : τ → List α) (delivered : ρ → List α) (size : Nat)
    {shared : σ} (hshared : state [] shared) :
    (ofSize size shared : WorkerPool σ τ ρ).Tracked state fit carried delivered where
  tasks := by
    intro w hw
    obtain ⟨-, rfl⟩ := List.mem_replicate.mp hw
    simp
  shared := by
    simpa [ofSize, Worker.shown, Phase.shown, List.flatMap_replicate] using hshared

end Step

section Done

variable {β : Type} {due : List β → σ → Prop} {suits : τ → Prop} {owed : τ → List β}

theorem ledger_of_nothing (work : Work σ τ ρ) (size : Nat) (shared : σ) (schedule : List Nat) :
    ((ofSize size shared).run work schedule).Ledger work (fun (_ : List Unit) _ => True)
      (fun _ => True) (fun _ => []) := by
  refine (ledger_ofSize work _ _ size trivial).run ?_ schedule
  exact ⟨fun _ => trivial, fun _ _ _ => ⟨trivial, [], rfl, trivial⟩, fun _ _ _ _ => ⟨rfl, trivial⟩⟩

theorem mem_shown_iff_of_isDone (hledger : pool.Ledger work due suits owed)
    (hdone : pool.isDone = true) {a : α} :
    a ∈ pool.workers.flatMap (Worker.shown carried delivered) ↔
      ∃ index result, pool.result? index = some result ∧ a ∈ delivered result := by
  constructor
  · intro hmem
    obtain ⟨w, hw, hshown⟩ := List.mem_flatMap.mp hmem
    rw [Worker.shown, phase_eq_exited_of_isDone hdone hw, Phase.shown, List.append_nil] at hshown
    obtain ⟨⟨index, result⟩, hkept, hdelivered⟩ := List.mem_flatMap.mp hshown
    have hkept : (index, result) ∈ pool.workers.flatMap (·.kept) :=
      List.mem_flatMap.mpr ⟨w, hw, hkept⟩
    exact ⟨index, result, hledger.result?_of_mem hdone hkept, hdelivered⟩
  · rintro ⟨index, result, hresult, hdelivered⟩
    obtain ⟨w, hw, hkept⟩ := List.mem_flatMap.mp (mem_kept_of_result? hresult)
    refine List.mem_flatMap.mpr ⟨w, hw, List.mem_append_left _ ?_⟩
    exact List.mem_flatMap.mpr ⟨(index, result), hkept, hdelivered⟩

end Done

end WorkerPool

end Lexgen
