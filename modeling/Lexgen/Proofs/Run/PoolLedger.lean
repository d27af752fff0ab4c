import Lexgen.Proofs.Run.PoolInvariant

/-!
What the workers of a pool do together when no task fails. A task owes a list of pieces of work and
pays them in order, some at each step. Under every schedule, what is paid and what is still owed
come to what the tasks taken owe at their start. So a pool that is done and has no failure among its
results has paid what all tasks owe, in some order.
-/

namespace Lexgen

variable {σ τ ρ α : Type}

namespace Work

/-- The work pays what tasks owe: `state paid s` says what the shared state `s` is when `paid` has
been paid, `owed task` is what a task has still to pay, and `fit` holds of the tasks there are. -/
structure Pays (work : Work σ τ ρ) (state : List α → σ → Prop) (fit : τ → Prop)
    (owed : τ → List α) : Prop where
  start : ∀ {index : Nat}, index < work.count → fit (work.start index)
  goes : ∀ {task next : τ} {paid : List α} {s s' : σ}, fit task → state paid s →
    work.advance task s = (s', .inl next) →
      fit next ∧ ∃ now, owed task = now ++ owed next ∧ state (paid ++ now) s'
  ends : ∀ {task : τ} {result : ρ} {paid : List α} {s s' : σ}, fit task → state paid s →
    work.advance task s = (s', .inr result) → work.isFailure result = false →
      owed task = [] ∧ state paid s'

end Work

/-- The result of a task that has ended and is not kept yet. -/
def Phase.result? : Phase τ ρ → Option ρ
  | .looking => none
  | .taking => none
  | .working _ _ => none
  | .telling _ result => some result
  | .keeping _ result => some result
  | .exited => none

/-- The results that a worker has come to. -/
def Worker.results (w : Worker τ ρ) : List ρ :=
  (Phase.result? w.phase).toList ++ w.kept.map Prod.snd

/-- What the task in a worker's hands has still to pay. -/
def Phase.owed (owed : τ → List α) : Phase τ ρ → List α
  | .working _ task => owed task
  | .looking => []
  | .taking => []
  | .telling _ _ => []
  | .keeping _ _ => []
  | .exited => []

namespace WorkerPool

/-- Some worker has come to a failure. -/
def Fails (work : Work σ τ ρ) (pool : WorkerPool σ τ ρ) : Prop :=
  ∃ w ∈ pool.workers, ∃ result ∈ w.results, work.isFailure result = true

/-- What holds of a worker in a pool without a failure, while the cursor is at `cursor`. -/
def PhaseFit (work : Work σ τ ρ) (fit : τ → Prop) (cursor : Nat) : Phase τ ρ → Prop
  | .looking => True
  | .taking => True
  | .working _ task => fit task
  | .telling _ _ => False
  | .keeping _ _ => True
  | .exited => work.count ≤ cursor

/-- The books of a pool without a failure: what is paid and what the workers owe come to what the
tasks taken owe at their start. -/
structure Balanced (work : Work σ τ ρ) (state : List α → σ → Prop) (fit : τ → Prop)
    (owed : τ → List α) (pool : WorkerPool σ τ ρ) : Prop where
  failed : pool.failed = false
  workers : ∀ w ∈ pool.workers, PhaseFit work fit pool.cursor w.phase
  account : ∃ paid, state paid pool.shared ∧
    (paid ++ pool.workers.flatMap fun w => Phase.owed owed w.phase).Perm
      (pool.taken.flatMap fun index => owed (work.start index))

/-- The tasks taken are the first ones, and the books balance unless there is a failure. -/
structure Ledger (work : Work σ τ ρ) (state : List α → σ → Prop) (fit : τ → Prop)
    (owed : τ → List α) (pool : WorkerPool σ τ ρ) : Prop where
  taken : pool.taken.Perm (List.range (min pool.cursor work.count))
  balanced : pool.Fails work ∨ pool.Balanced work state fit owed

section Step

variable {work : Work σ τ ρ} {state : List α → σ → Prop} {fit : τ → Prop} {owed : τ → List α}
  {pool pool' : WorkerPool σ τ ρ} {k : Nat} {w w' : Worker τ ρ}

theorem PhaseFit.mono {cursor cursor' : Nat} {phase : Phase τ ρ}
    (hphase : PhaseFit work fit cursor phase) (hle : cursor ≤ cursor') :
    PhaseFit work fit cursor' phase := by
  cases phase with
  | exited => exact Nat.le_trans hphase hle
  | looking => trivial
  | taking => trivial
  | working index task => exact hphase
  | telling index result => exact hphase
  | keeping index result => trivial

theorem Fails.set (hfails : pool.Fails work) (hk : pool.workers[k]? = some w)
    (hworkers : pool'.workers = pool.workers.set k w') (hresults : w.results ⊆ w'.results) :
    pool'.Fails work := by
  obtain ⟨v, hv, result, hresult, hfailure⟩ := hfails
  obtain ⟨j, hj, rfl⟩ := List.getElem_of_mem hv
  have hlength : k < pool.workers.length := (List.getElem?_eq_some_iff.mp hk).1
  by_cases hkj : k = j
  · subst hkj
    obtain rfl : pool.workers[k] = w := by simpa [hj] using hk
    exact ⟨w', hworkers ▸ List.mem_set hlength _, result, hresults hresult, hfailure⟩
  · refine ⟨pool.workers[j], ?_, result, hresult, hfailure⟩
    rw [hworkers, ← List.getElem_set_ne hkj (by simpa using hj)]
    exact List.getElem_mem _

theorem Balanced.change (hpool : pool.Balanced work state fit owed) (hk : pool.workers[k]? = some w)
    (hworkers : pool'.workers = pool.workers.set k w') (hfailed : pool'.failed = false)
    (hcursor : pool.cursor ≤ pool'.cursor) (hw' : PhaseFit work fit pool'.cursor w'.phase)
    {extra : List Nat} (htaken : w'.taken.Perm (extra ++ w.taken))
    (hpays : ∀ paid, state paid pool.shared →
      ∃ now, now ++ Phase.owed owed w'.phase =
          extra.flatMap (fun index => owed (work.start index)) ++ Phase.owed owed w.phase ∧
        state (paid ++ now) pool'.shared) :
    pool'.Balanced work state fit owed where
  failed := hfailed
  workers := by
    intro v hv
    rw [hworkers] at hv
    rcases List.mem_or_eq_of_mem_set hv with hv | rfl
    · exact (hpool.workers v hv).mono hcursor
    · exact hw'
  account := by
    obtain ⟨paid, hpaid, hperm⟩ := hpool.account
    obtain ⟨now, howed, hpaid'⟩ := hpays paid hpaid
    refine ⟨paid ++ now, hpaid', ?_⟩
    have howed' : (now ++ Phase.owed owed w'.phase).Perm
        (extra.flatMap (fun index => owed (work.start index)) ++ Phase.owed owed w.phase) :=
      .of_eq howed
    have htaken' : pool'.taken.Perm (extra ++ pool.taken) := by
      rw [WorkerPool.taken, hworkers]
      exact flatMap_taken_set_perm hk htaken
    rw [hworkers, List.append_assoc]
    calc paid ++ (now ++ (pool.workers.set k w').flatMap fun w => Phase.owed owed w.phase)
      _ |>.Perm (paid ++ (extra.flatMap (fun index => owed (work.start index)) ++
            pool.workers.flatMap fun w => Phase.owed owed w.phase)) :=
          (flatMap_set_perm hk howed').append_left paid
      _ |>.Perm (extra.flatMap (fun index => owed (work.start index)) ++
            (paid ++ pool.workers.flatMap fun w => Phase.owed owed w.phase)) :=
          List.perm_append_comm_assoc ..
      _ |>.Perm (extra.flatMap (fun index => owed (work.start index)) ++
            pool.taken.flatMap fun index => owed (work.start index)) := hperm.append_left _
      _ |>.Perm (pool'.taken.flatMap fun index => owed (work.start index)) := by
          rw [← List.flatMap_append]
          exact htaken'.symm.flatMap_right _

theorem Ledger.change (hpool : pool.Ledger work state fit owed) (hk : pool.workers[k]? = some w)
    (hworkers : pool'.workers = pool.workers.set k w') {extra : List Nat}
    (htaken : w'.taken.Perm (extra ++ w.taken))
    (hextra : (extra ++ List.range (min pool.cursor work.count)).Perm
      (List.range (min pool'.cursor work.count)))
    (hresults : w.results ⊆ w'.results)
    (hbalanced : pool.Balanced work state fit owed →
      (∃ result ∈ w'.results, work.isFailure result = true) ∨
        pool'.Balanced work state fit owed) :
    pool'.Ledger work state fit owed where
  taken := by
    rw [WorkerPool.taken, hworkers]
    exact ((flatMap_taken_set_perm hk htaken).trans (hpool.taken.append_left extra)).trans hextra
  balanced := by
    rcases hpool.balanced with hfails | hpool
    · exact .inl (hfails.set hk hworkers hresults)
    · refine (hbalanced hpool).imp_left fun hfailure => ⟨w', ?_, hfailure⟩
      rw [hworkers]
      exact List.mem_set (List.getElem?_eq_some_iff.mp hk).1 _

theorem Ledger.changePhase (hpool : pool.Ledger work state fit owed)
    (hk : pool.workers[k]? = some w) (hworkers : pool'.workers = pool.workers.set k w')
    (hcursor : pool'.cursor = pool.cursor) (htaken : w'.taken.Perm w.taken)
    (hresults : w.results ⊆ w'.results)
    (hbalanced : pool.Balanced work state fit owed →
      (∃ result ∈ w'.results, work.isFailure result = true) ∨
        pool'.failed = false ∧ PhaseFit work fit pool.cursor w'.phase ∧
          ∀ paid, state paid pool.shared →
            ∃ now, now ++ Phase.owed owed w'.phase = Phase.owed owed w.phase ∧
              state (paid ++ now) pool'.shared) :
    pool'.Ledger work state fit owed := by
  have htaken' : w'.taken.Perm ([] ++ w.taken) := htaken
  refine hpool.change hk hworkers htaken' (.of_eq (by simp [hcursor])) hresults ?_
  intro hpool
  refine (hbalanced hpool).imp_right ?_
  rintro ⟨hfailed, hfit, hpays⟩
  exact hpool.change hk hworkers hfailed (Nat.le_of_eq hcursor.symm) (hcursor ▸ hfit) htaken' hpays

theorem Ledger.step_looking (hpool : pool.Ledger work state fit owed)
    (hk : pool.workers[k]? = some w) (hphase : w.phase = .looking) :
    (stepWorker work pool k w).Ledger work state fit owed := by
  simp only [stepWorker, hphase]
  refine hpool.changePhase hk rfl rfl ?_ ?_ ?_
  · by_cases hfailed : pool.failed = true <;>
      simp [Worker.taken, Phase.index?, hphase, hfailed]
  · by_cases hfailed : pool.failed = true <;>
      simp [Worker.results, Phase.result?, hphase, hfailed]
  · intro hpool
    have hfailed := hpool.failed
    refine .inr ⟨hfailed, by simp [hfailed, PhaseFit], fun paid hpaid => ⟨[], ?_, ?_⟩⟩
    · simp [hfailed, hphase, Phase.owed]
    · simpa [setWorker] using hpaid

theorem Ledger.step_taking (hpays : work.Pays state fit owed)
    (hpool : pool.Ledger work state fit owed) (hk : pool.workers[k]? = some w)
    (hphase : w.phase = .taking) : (stepWorker work pool k w).Ledger work state fit owed := by
  by_cases hleft : pool.cursor < work.count
  · simp only [stepWorker, hphase, if_pos hleft]
    -- The task taken is the one at the cursor, and all of it is owed.
    have htaken : ({ w with phase := .working pool.cursor (work.start pool.cursor) } :
        Worker τ ρ).taken.Perm ([pool.cursor] ++ w.taken) := by
      simp [Worker.taken, Phase.index?, hphase]
    refine hpool.change hk rfl htaken (range_succ_perm hleft) ?_ ?_
    · simp [Worker.results, Phase.result?, hphase]
    · intro hpool
      refine .inr (hpool.change hk rfl hpool.failed (Nat.le_succ _) (hpays.start hleft) htaken
        fun paid hpaid => ⟨[], ?_, ?_⟩)
      · simp [hphase, Phase.owed]
      · simpa [setWorker] using hpaid
  · simp only [stepWorker, hphase, if_neg hleft]
    -- The cursor runs past the last task; nothing is taken and the worker exits.
    have htaken : ({ w with phase := .exited } : Worker τ ρ).taken.Perm ([] ++ w.taken) := by
      simp [Worker.taken, Phase.index?, hphase]
    have hpast : work.count ≤ pool.cursor + 1 := by omega
    refine hpool.change hk rfl htaken ?_ ?_ ?_
    · have hsame : min (pool.cursor + 1) work.count = min pool.cursor work.count := by omega
      simp only [hsame, List.nil_append]
      exact List.Perm.refl _
    · simp [Worker.results, Phase.result?, hphase]
    · intro hpool
      refine .inr (hpool.change hk rfl hpool.failed (Nat.le_succ _) hpast htaken
        fun paid hpaid => ⟨[], ?_, ?_⟩)
      · simp [hphase, Phase.owed]
      · simpa [setWorker] using hpaid

theorem Ledger.step_working (hpays : work.Pays state fit owed)
    (hpool : pool.Ledger work state fit owed) (hk : pool.workers[k]? = some w) {index : Nat}
    {task : τ} (hphase : w.phase = .working index task) :
    (stepWorker work pool k w).Ledger work state fit owed := by
  have hfit (hpool : pool.Balanced work state fit owed) : fit task := by
    simpa only [hphase, PhaseFit] using hpool.workers w (List.mem_of_getElem? hk)
  rcases hadvance : work.advance task pool.shared with ⟨s', next | result⟩
  · simp only [stepWorker, hphase, hadvance]
    refine hpool.changePhase hk rfl rfl ?_ ?_ ?_
    · simp [Worker.taken, Phase.index?, hphase]
    · simp [Worker.results, Phase.result?, hphase]
    · intro hpool
      have hgoes (paid : List α) (hpaid : state paid pool.shared) :=
        hpays.goes (hfit hpool) hpaid hadvance
      obtain ⟨paid, hpaid, -⟩ := hpool.account
      refine .inr ⟨hpool.failed, (hgoes paid hpaid).1, fun paid hpaid => ?_⟩
      obtain ⟨-, now, howed, hpaid'⟩ := hgoes paid hpaid
      exact ⟨now, by simp [hphase, Phase.owed, howed], hpaid'⟩
  · by_cases hfailure : work.isFailure result = true
    · simp only [stepWorker, hphase, hadvance, if_pos hfailure]
      refine hpool.changePhase hk rfl rfl ?_ ?_ ?_
      · simp [Worker.taken, Phase.index?, hphase]
      · simp [Worker.results, Phase.result?, hphase]
      · intro _
        exact .inl ⟨result, by simp [Worker.results, Phase.result?], hfailure⟩
    · simp only [stepWorker, hphase, hadvance, if_neg hfailure]
      refine hpool.changePhase hk rfl rfl ?_ ?_ ?_
      · simp [Worker.taken, Phase.index?, hphase]
      · simp [Worker.results, Phase.result?, hphase]
      · intro hpool
        refine .inr ⟨hpool.failed, trivial, fun paid hpaid => ?_⟩
        obtain ⟨howed, hpaid'⟩ := hpays.ends (hfit hpool) hpaid hadvance (by simpa using hfailure)
        exact ⟨[], by simp [hphase, Phase.owed, howed], by simpa using hpaid'⟩

theorem Ledger.step_telling (hpool : pool.Ledger work state fit owed)
    (hk : pool.workers[k]? = some w) {index : Nat} {result : ρ}
    (hphase : w.phase = .telling index result) :
    (stepWorker work pool k w).Ledger work state fit owed := by
  simp only [stepWorker, hphase]
  refine hpool.changePhase hk rfl rfl ?_ ?_ ?_
  · simp [Worker.taken, Phase.index?, hphase]
  · simp [Worker.results, Phase.result?, hphase]
  · intro hpool
    -- Without a failure there is nothing to tell.
    have hfit := hpool.workers w (List.mem_of_getElem? hk)
    rw [hphase] at hfit
    exact hfit.elim

theorem Ledger.step_keeping (hpool : pool.Ledger work state fit owed)
    (hk : pool.workers[k]? = some w) {index : Nat} {result : ρ}
    (hphase : w.phase = .keeping index result) :
    (stepWorker work pool k w).Ledger work state fit owed := by
  simp only [stepWorker, hphase]
  refine hpool.changePhase hk rfl rfl ?_ ?_ ?_
  · simp [Worker.taken, Phase.index?, hphase]
  · simp [Worker.results, Phase.result?, hphase]
  · intro hpool
    refine .inr ⟨hpool.failed, trivial, fun paid hpaid => ⟨[], ?_, ?_⟩⟩
    · simp [hphase, Phase.owed]
    · simpa [setWorker] using hpaid

theorem Ledger.step (hpays : work.Pays state fit owed) (hpool : pool.Ledger work state fit owed)
    (k : Nat) : (pool.step work k).Ledger work state fit owed := by
  rw [WorkerPool.step]
  split
  · rename_i w hk
    cases hphase : w.phase with
    | looking => exact hpool.step_looking hk hphase
    | taking => exact hpool.step_taking hpays hk hphase
    | working index task => exact hpool.step_working hpays hk hphase
    | telling index result => exact hpool.step_telling hk hphase
    | keeping index result => exact hpool.step_keeping hk hphase
    | exited => simpa only [stepWorker, hphase] using hpool
  · exact hpool

theorem Ledger.run (hpays : work.Pays state fit owed) (hpool : pool.Ledger work state fit owed)
    (schedule : List Nat) : (pool.run work schedule).Ledger work state fit owed := by
  induction schedule generalizing pool with
  | nil => exact hpool
  | cons k schedule ih => exact ih (hpool.step hpays k)

theorem ledger_ofSize (work : Work σ τ ρ) (fit : τ → Prop) (owed : τ → List α) (size : Nat)
    {shared : σ} (hshared : state [] shared) :
    (ofSize size shared : WorkerPool σ τ ρ).Ledger work state fit owed where
  taken := by
    simp [WorkerPool.taken, ofSize, Worker.taken, Phase.index?, List.flatMap_replicate]
  balanced := by
    refine .inr ⟨rfl, ?_, [], hshared, ?_⟩
    · intro w hw
      obtain ⟨-, rfl⟩ := List.mem_replicate.mp hw
      trivial
    · simp [WorkerPool.taken, ofSize, Worker.taken, Phase.index?, Phase.owed,
        List.flatMap_replicate]

end Step

section Done

variable {work : Work σ τ ρ} {state : List α → σ → Prop} {fit : τ → Prop} {owed : τ → List α}
  {pool : WorkerPool σ τ ρ}

theorem Ledger.result?_of_mem (hpool : pool.Ledger work state fit owed) (hdone : pool.isDone = true)
    {index : Nat} {result : ρ} (hkept : (index, result) ∈ pool.workers.flatMap (·.kept)) :
    pool.result? index = some result := by
  have hnodup : ((pool.workers.flatMap (·.kept)).map Prod.fst).Nodup := by
    rw [map_fst_kept_of_isDone hdone]
    exact hpool.taken.symm.nodup (List.nodup_range)
  rw [result?, List.lookup_eq_some_iff]
  obtain ⟨before, after, hsplit⟩ := List.append_of_mem hkept
  refine ⟨before, after, hsplit, ?_⟩
  intro entry hentry
  rw [hsplit, List.map_append, List.nodup_append] at hnodup
  have hne := hnodup.2.2 entry.1 (List.mem_map_of_mem hentry) index (by simp)
  simpa using hne.symm

theorem mem_kept_of_result? {index : Nat} {result : ρ}
    (hresult : pool.result? index = some result) :
    (index, result) ∈ pool.workers.flatMap (·.kept) := by
  obtain ⟨before, after, hsplit, -⟩ := List.lookup_eq_some_iff.mp hresult
  rw [hsplit]
  exact List.mem_append_right _ List.mem_cons_self

theorem Ledger.lt_of_mem_kept (hpool : pool.Ledger work state fit owed)
    (hdone : pool.isDone = true) {index : Nat} {result : ρ}
    (hkept : (index, result) ∈ pool.workers.flatMap (·.kept)) :
    index < min pool.cursor work.count := by
  rw [← List.mem_range, ← hpool.taken.mem_iff, ← map_fst_kept_of_isDone hdone]
  exact List.mem_map_of_mem hkept

theorem Ledger.exists_result?_of_lt (hpool : pool.Ledger work state fit owed)
    (hdone : pool.isDone = true) {index : Nat} (hindex : index < min pool.cursor work.count) :
    ∃ result, pool.result? index = some result := by
  have htaken : index ∈ (pool.workers.flatMap (·.kept)).map Prod.fst := by
    rw [map_fst_kept_of_isDone hdone, hpool.taken.mem_iff, List.mem_range]
    exact hindex
  obtain ⟨⟨_, result⟩, hkept, rfl⟩ := List.mem_map.mp htaken
  exact ⟨result, hpool.result?_of_mem hdone hkept⟩

theorem Ledger.not_fails (hpool : pool.Ledger work state fit owed) (hdone : pool.isDone = true)
    (hresults : ∀ index < min pool.cursor work.count, ∀ result, pool.result? index = some result →
      work.isFailure result = false) : ¬ pool.Fails work := by
  rintro ⟨w, hw, result, hresult, hfailure⟩
  rw [Worker.results, phase_eq_exited_of_isDone hdone hw] at hresult
  obtain ⟨⟨index, _⟩, hkept, rfl⟩ := List.mem_map.mp hresult
  have hkept : (index, _) ∈ pool.workers.flatMap (·.kept) := List.mem_flatMap.mpr ⟨w, hw, hkept⟩
  have hok := hresults index (hpool.lt_of_mem_kept hdone hkept) _ (hpool.result?_of_mem hdone hkept)
  simp [hok] at hfailure

theorem Balanced.count_le_cursor (hpool : pool.Balanced work state fit owed)
    (hdone : pool.isDone = true) (hworkers : 0 < pool.workers.length) :
    work.count ≤ pool.cursor := by
  have hmem : pool.workers[0] ∈ pool.workers := List.getElem_mem hworkers
  have hall := hpool.workers _ hmem
  rw [phase_eq_exited_of_isDone hdone hmem] at hall
  exact hall

/-- A pool that is done and has come to no failure has paid what all tasks owe, in some order. -/
theorem Ledger.exists_paid_of_isDone (hpool : pool.Ledger work state fit owed)
    (hdone : pool.isDone = true) (hworkers : 0 < pool.workers.length)
    (hresults : ∀ index < min pool.cursor work.count, ∀ result, pool.result? index = some result →
      work.isFailure result = false) :
    ∃ paid, state paid pool.shared ∧
      paid.Perm ((List.range work.count).flatMap fun index => owed (work.start index)) := by
  have hbalanced := hpool.balanced.resolve_left (hpool.not_fails hdone hresults)
  obtain ⟨paid, hpaid, hperm⟩ := hbalanced.account
  refine ⟨paid, hpaid, ?_⟩
  have hnothing : (pool.workers.flatMap fun w => Phase.owed owed w.phase) = [] := by
    rw [List.flatMap_eq_nil_iff]
    intro w hw
    rw [phase_eq_exited_of_isDone hdone hw]
    rfl
  have htaken := hpool.taken
  rw [Nat.min_eq_right (hbalanced.count_le_cursor hdone hworkers)] at htaken
  rw [hnothing, List.append_nil] at hperm
  exact hperm.trans (htaken.flatMap_right _)

end Done

end WorkerPool

end Lexgen
