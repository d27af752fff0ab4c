import Lexgen.Proofs.Run.PoolInvariant

namespace Lexgen

variable {σ τ ρ : Type}

/-- Every task takes at most `bound + 1` steps: it starts with at most `bound` and each step that
does not end it leaves fewer. -/
structure Work.Bounded (work : Work σ τ ρ) (steps : τ → Nat) (bound : Nat) : Prop where
  start : ∀ index, steps (work.start index) ≤ bound
  advance : ∀ {task next : τ} {shared : σ}, (work.advance task shared).2 = .inl next →
    steps next < steps task

/-- The steps before a worker takes another task, at most. -/
def Phase.cost (steps : τ → Nat) : Phase τ ρ → Nat
  | .exited => 0
  | .taking => 1
  | .looking => 2
  | .keeping _ _ => 3
  | .telling _ _ => 4
  | .working _ task => 5 + steps task

namespace WorkerPool

/-- The steps of a worker from one task to the next, at most. -/
def stepsPerTask (bound : Nat) : Nat := bound + 5

/-- The steps before a worker exits, at most, when `left` tasks are left. -/
def stepsLeft (steps : τ → Nat) (bound left : Nat) : Phase τ ρ → Nat
  | .exited => 0
  | phase => Phase.cost steps phase + stepsPerTask bound * left

theorem stepsLeft_mono (steps : τ → Nat) (bound : Nat) {left left' : Nat} (hle : left ≤ left')
    (phase : Phase τ ρ) :
    stepsLeft steps bound left phase ≤ stepsLeft steps bound left' phase := by
  have hmul : stepsPerTask bound * left ≤ stepsPerTask bound * left' :=
    Nat.mul_le_mul_left _ hle
  cases phase <;> simp only [stepsLeft] <;> omega

theorem eq_exited_of_stepsLeft_eq_zero {steps : τ → Nat} {bound left : Nat} {phase : Phase τ ρ}
    (hzero : stepsLeft steps bound left phase = 0) : phase = .exited := by
  cases phase with
  | exited => rfl
  | _ => simp [stepsLeft, Phase.cost] at hzero

/-- The steps before worker number `k` exits, at most. -/
def workerSteps (work : Work σ τ ρ) (steps : τ → Nat) (bound : Nat) (pool : WorkerPool σ τ ρ)
    (k : Nat) : Nat :=
  match pool.workers[k]? with
  | some w => stepsLeft steps bound (work.count - pool.cursor) w.phase
  | none => 0

section Step

variable {work : Work σ τ ρ} {steps : τ → Nat} {bound : Nat}

theorem cursor_le_stepWorker (work : Work σ τ ρ) (pool : WorkerPool σ τ ρ) (k : Nat)
    (w : Worker τ ρ) : pool.cursor ≤ (stepWorker work pool k w).cursor := by
  simp only [stepWorker]
  split <;> simp [setWorker]

theorem cursor_le_step (work : Work σ τ ρ) (pool : WorkerPool σ τ ρ) (k : Nat) :
    pool.cursor ≤ (pool.step work k).cursor := by
  rw [WorkerPool.step]
  split
  · exact cursor_le_stepWorker work pool k _
  · exact Nat.le_refl _

theorem getElem?_workers_step_of_ne (work : Work σ τ ρ) (pool : WorkerPool σ τ ρ) {j k : Nat}
    (hne : j ≠ k) : (pool.step work j).workers[k]? = pool.workers[k]? := by
  rw [WorkerPool.step]
  split
  · simp only [stepWorker]
    split <;> simp [setWorker, List.getElem?_set_ne hne]
  · rfl

theorem workerSteps_step_of_ne (work : Work σ τ ρ) (steps : τ → Nat) (bound : Nat)
    (pool : WorkerPool σ τ ρ) {j k : Nat} (hne : j ≠ k) :
    workerSteps work steps bound (pool.step work j) k ≤ workerSteps work steps bound pool k := by
  simp only [workerSteps, getElem?_workers_step_of_ne work pool hne]
  cases pool.workers[k]? with
  | none => exact Nat.le_refl _
  | some w =>
      have hcursor := cursor_le_step work pool j
      exact stepsLeft_mono steps bound (by omega) w.phase

theorem workerSteps_step_self (hbounded : work.Bounded steps bound)
    (pool : WorkerPool σ τ ρ) (k : Nat) :
    workerSteps work steps bound (pool.step work k) k ≤
      workerSteps work steps bound pool k - 1 := by
  cases hk : pool.workers[k]? with
  | none => simp [workerSteps, WorkerPool.step, hk]
  | some w =>
      have hlt : k < pool.workers.length := (List.getElem?_eq_some_iff.mp hk).1
      have hself : ∀ w' : Worker τ ρ, (pool.workers.set k w')[k]? = some w' :=
        fun w' => List.getElem?_set_self hlt
      simp only [workerSteps, WorkerPool.step, hk, stepWorker]
      cases hphase : w.phase with
      | exited => simp [hk, hphase, stepsLeft]
      | looking =>
          simp only [setWorker, hself]
          split
          · simp [stepsLeft]
          · simp only [stepsLeft, Phase.cost]
            omega
      | taking =>
          simp only [setWorker, hself]
          split
          · -- the task taken no longer counts as one that is left
            rename_i hleft
            have hstart := hbounded.start pool.cursor
            obtain ⟨left, hnow⟩ : ∃ left, work.count - pool.cursor = left + 1 :=
              ⟨work.count - pool.cursor - 1, by omega⟩
            have hnext : work.count - (pool.cursor + 1) = left := by omega
            simp only [stepsLeft, Phase.cost, hnow, hnext, stepsPerTask, Nat.mul_add_one]
            omega
          · simp [stepsLeft]
      | working index task =>
          simp only [setWorker, hself]
          cases hadvance : (work.advance task pool.shared).2 with
          | inl next =>
              have hfewer := hbounded.advance hadvance
              simp only [stepsLeft, Phase.cost]
              omega
          | inr result =>
              by_cases hfailure : work.isFailure result = true
              · simp only [if_pos hfailure, stepsLeft, Phase.cost]
                omega
              · simp only [if_neg hfailure, stepsLeft, Phase.cost]
                omega
      | telling index result =>
          simp only [setWorker, hself, stepsLeft, Phase.cost]
          omega
      | keeping index result =>
          simp only [setWorker, hself, stepsLeft, Phase.cost]
          omega

theorem workerSteps_run (hbounded : work.Bounded steps bound) (pool : WorkerPool σ τ ρ)
    (schedule : List Nat) (k : Nat) :
    workerSteps work steps bound (pool.run work schedule) k ≤
      workerSteps work steps bound pool k - schedule.count k := by
  induction schedule generalizing pool with
  | nil => exact Nat.le_refl _
  | cons j schedule ih =>
      have hrest := ih (pool.step work j)
      by_cases hjk : j = k
      · subst hjk
        have hstep := workerSteps_step_self hbounded pool j
        rw [List.count_cons_self]
        exact Nat.le_trans hrest (by omega)
      · have hstep := workerSteps_step_of_ne work steps bound pool hjk
        rw [List.count_cons_of_ne hjk]
        exact Nat.le_trans hrest (by omega)

end Step

theorem isDone_of_workerSteps_eq_zero (work : Work σ τ ρ) (steps : τ → Nat) (bound : Nat)
    {pool : WorkerPool σ τ ρ}
    (hzero : ∀ k < pool.workers.length, workerSteps work steps bound pool k = 0) :
    pool.isDone = true := by
  refine List.all_eq_true.mpr fun w hw => ?_
  obtain ⟨k, hlt, hk⟩ := List.getElem_of_mem hw
  have hexited := hzero k hlt
  simp only [workerSteps, List.getElem?_eq_getElem hlt, hk] at hexited
  rw [eq_exited_of_stepsLeft_eq_zero hexited]
  rfl

/-- A schedule in which each worker goes often enough for all the tasks leaves no worker at work. -/
theorem isDone_run_ofSize {work : Work σ τ ρ} {steps : τ → Nat} {bound : Nat}
    (hbounded : work.Bounded steps bound) (size : Nat) (shared : σ) {schedule : List Nat}
    (hfair : ∀ k < size, stepsPerTask bound * work.count + 2 ≤ schedule.count k) :
    ((ofSize size shared).run work schedule).isDone = true := by
  refine isDone_of_workerSteps_eq_zero work steps bound ?_
  intro k hk
  have hsize : k < size := by simpa [ofSize] using hk
  have hrun := workerSteps_run hbounded (ofSize size shared) schedule k
  have hstart : workerSteps work steps bound (ofSize size shared) k =
      2 + stepsPerTask bound * work.count := by
    simp [workerSteps, ofSize, hsize, stepsLeft, Phase.cost]
  have := hfair k hsize
  omega

theorem count_roundRobin {size k : Nat} (hk : k < size) (rounds : Nat) :
    (roundRobin size rounds).count k = rounds := by
  have hone : (List.range size).count k = 1 := by
    rw [List.nodup_range.count, if_pos (List.mem_range.mpr hk)]
  simp [roundRobin, List.count_flatten, hone]

end WorkerPool

end Lexgen
