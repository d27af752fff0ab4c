import Lexgen.WorkerPool
import Mathlib.Data.List.Perm.Basic

/-!
What holds of a pool of workers under every schedule. The tasks that were taken are always the first
ones, each taken by one worker; a worker leaves only when all tasks are taken or one of the tasks
taken has failed. So the results of a pool that is done are those of a first part of the tasks, and
the part ends short of the last task only behind a failure.
-/

namespace Lexgen

variable {σ τ ρ : Type}

namespace Work

/-- The tasks that come up in the work on task number `index` while what is shared keeps to
`inv`. -/
inductive Underway (work : Work σ τ ρ) (inv : σ → Prop) (index : Nat) : τ → Prop
  | start : Underway work inv index (work.start index)
  | advance {task next : τ} {shared : σ} : Underway work inv index task → inv shared →
      (work.advance task shared).2 = .inl next → Underway work inv index next

/-- Each task has one outcome, whatever the others do in between: no step of a task leaves `inv`,
and from every shared state in `inv` the last step of task number `i` ends it with `outcome i`. -/
structure FixedOutcomes (work : Work σ τ ρ) (inv : σ → Prop) (outcome : Nat → ρ) : Prop where
  keeps : ∀ {index : Nat} {task : τ} {shared : σ}, index < work.count →
    work.Underway inv index task → inv shared → inv (work.advance task shared).1
  ends : ∀ {index : Nat} {task : τ} {shared : σ} {result : ρ}, index < work.count →
    work.Underway inv index task → inv shared →
      (work.advance task shared).2 = .inr result → result = outcome index

end Work

/-- The task that a worker has taken and not kept the result of. -/
def Phase.index? : Phase τ ρ → Option Nat
  | .looking => none
  | .taking => none
  | .working index _ => some index
  | .telling index _ => some index
  | .keeping index _ => some index
  | .exited => none

/-- The tasks that a worker has taken. -/
def Worker.taken (w : Worker τ ρ) : List Nat :=
  (Phase.index? w.phase).toList ++ w.kept.map Prod.fst

namespace WorkerPool

/-- The tasks that the workers have taken, worker by worker. -/
def taken (pool : WorkerPool σ τ ρ) : List Nat := pool.workers.flatMap Worker.taken

/-- Some task below `bound` has failed. -/
def FailsBelow (work : Work σ τ ρ) (outcome : Nat → ρ) (bound : Nat) : Prop :=
  ∃ index < bound, work.isFailure (outcome index) = true

/-- No worker needs to take another task: all are taken, or one of those taken fails. -/
def Settled (work : Work σ τ ρ) (outcome : Nat → ρ) (cursor : Nat) : Prop :=
  work.count ≤ cursor ∨ FailsBelow work outcome (min cursor work.count)

/-- What holds of a worker about to do something while the cursor is at `cursor`. -/
def PhaseSound (work : Work σ τ ρ) (inv : σ → Prop) (outcome : Nat → ρ) (cursor : Nat) :
    Phase τ ρ → Prop
  | .looking => True
  | .taking => True
  | .working index task => work.Underway inv index task
  | .telling index result => result = outcome index ∧ work.isFailure result = true
  | .keeping index result => result = outcome index
  | .exited => Settled work outcome cursor

structure WorkerSound (work : Work σ τ ρ) (inv : σ → Prop) (outcome : Nat → ρ) (cursor : Nat)
    (w : Worker τ ρ) : Prop where
  phase : PhaseSound work inv outcome cursor w.phase
  kept : ∀ entry ∈ w.kept, entry.2 = outcome entry.1

/-- The invariant of a pool. -/
structure Sound (work : Work σ τ ρ) (inv : σ → Prop) (outcome : Nat → ρ)
    (pool : WorkerPool σ τ ρ) : Prop where
  shared : inv pool.shared
  workers : ∀ w ∈ pool.workers, WorkerSound work inv outcome pool.cursor w
  taken : pool.taken.Perm (List.range (min pool.cursor work.count))
  failed : pool.failed = true → FailsBelow work outcome (min pool.cursor work.count)

theorem FailsBelow.mono {work : Work σ τ ρ} {outcome : Nat → ρ} {bound bound' : Nat}
    (hfails : FailsBelow work outcome bound) (hle : bound ≤ bound') :
    FailsBelow work outcome bound' := by
  obtain ⟨index, hindex, hfailure⟩ := hfails
  exact ⟨index, by omega, hfailure⟩

theorem Settled.mono {work : Work σ τ ρ} {outcome : Nat → ρ} {cursor cursor' : Nat}
    (hsettled : Settled work outcome cursor) (hle : cursor ≤ cursor') :
    Settled work outcome cursor' := by
  rcases hsettled with hall | hfails
  · exact Or.inl (by omega)
  · exact Or.inr (hfails.mono (by omega))

theorem WorkerSound.mono {work : Work σ τ ρ} {inv : σ → Prop} {outcome : Nat → ρ}
    {cursor cursor' : Nat} {w : Worker τ ρ} (hw : WorkerSound work inv outcome cursor w)
    (hle : cursor ≤ cursor') : WorkerSound work inv outcome cursor' w := by
  refine ⟨?_, hw.kept⟩
  have hphase := hw.phase
  cases h : w.phase with
  | exited =>
      rw [h] at hphase
      exact Settled.mono hphase hle
  | looking => trivial
  | taking => trivial
  | working index task => simpa only [h, PhaseSound] using hphase
  | telling index result => simpa only [h, PhaseSound] using hphase
  | keeping index result => simpa only [h, PhaseSound] using hphase

theorem flatMap_set_perm {β γ : Type} {f : β → List γ} {xs : List β} {k : Nat} {x y : β}
    {lost gained : List γ} (hk : xs[k]? = some x) (hchange : (lost ++ f y).Perm (gained ++ f x)) :
    (lost ++ (xs.set k y).flatMap f).Perm (gained ++ xs.flatMap f) := by
  induction xs generalizing k with
  | nil => simp at hk
  | cons v rest ih =>
      cases k with
      | zero =>
          obtain rfl : v = x := by simpa using hk
          simpa using hchange.append_right (rest.flatMap f)
      | succ k =>
          have hrest := ih (by simpa using hk)
          simp only [List.set_cons_succ, List.flatMap_cons]
          calc lost ++ (f v ++ (rest.set k y).flatMap f)
            _ |>.Perm (f v ++ (lost ++ (rest.set k y).flatMap f)) := List.perm_append_comm_assoc ..
            _ |>.Perm (f v ++ (gained ++ rest.flatMap f)) := hrest.append_left (f v)
            _ |>.Perm (gained ++ (f v ++ rest.flatMap f)) := List.perm_append_comm_assoc ..

theorem flatMap_taken_set_perm {workers : List (Worker τ ρ)} {k : Nat} {w w' : Worker τ ρ}
    {extra : List Nat} (hk : workers[k]? = some w) (htaken : w'.taken.Perm (extra ++ w.taken)) :
    ((workers.set k w').flatMap Worker.taken).Perm
      (extra ++ workers.flatMap Worker.taken) := by
  have hchange : ([] ++ w'.taken).Perm (extra ++ w.taken) := htaken
  exact flatMap_set_perm hk hchange

theorem Sound.change {work : Work σ τ ρ} {inv : σ → Prop} {outcome : Nat → ρ}
    {pool pool' : WorkerPool σ τ ρ} {k : Nat} {w w' : Worker τ ρ}
    (hpool : Sound work inv outcome pool) (extra : List Nat)
    (hk : pool.workers[k]? = some w)
    (hworkers : pool'.workers = pool.workers.set k w') (hshared : inv pool'.shared)
    (hcursor : pool.cursor ≤ pool'.cursor)
    (hfailed : pool'.failed = true → FailsBelow work outcome (min pool'.cursor work.count))
    (hw' : WorkerSound work inv outcome pool'.cursor w')
    (htaken : w'.taken.Perm (extra ++ w.taken))
    (hextra : (extra ++ List.range (min pool.cursor work.count)).Perm
      (List.range (min pool'.cursor work.count))) :
    Sound work inv outcome pool' where
  shared := hshared
  workers := by
    intro v hv
    rw [hworkers] at hv
    rcases List.mem_or_eq_of_mem_set hv with hv | rfl
    · exact (hpool.workers v hv).mono hcursor
    · exact hw'
  taken := by
    rw [WorkerPool.taken, hworkers]
    exact ((flatMap_taken_set_perm hk htaken).trans (hpool.taken.append_left extra)).trans hextra
  failed := hfailed

theorem Sound.changePhase {work : Work σ τ ρ} {inv : σ → Prop} {outcome : Nat → ρ}
    {pool pool' : WorkerPool σ τ ρ} {k : Nat} {w w' : Worker τ ρ}
    (hpool : Sound work inv outcome pool) (hk : pool.workers[k]? = some w)
    (hworkers : pool'.workers = pool.workers.set k w') (hshared : inv pool'.shared)
    (hcursor : pool'.cursor = pool.cursor)
    (hfailed : pool'.failed = true → FailsBelow work outcome (min pool.cursor work.count))
    (hw' : WorkerSound work inv outcome pool.cursor w') (htaken : w'.taken.Perm w.taken) :
    Sound work inv outcome pool' := by
  refine hpool.change [] hk hworkers hshared (Nat.le_of_eq hcursor.symm) ?_ ?_ htaken ?_
  · simpa only [hcursor] using hfailed
  · simpa only [hcursor] using hw'
  · simp [hcursor]

theorem range_succ_perm {cursor count : Nat} (hleft : cursor < count) :
    ([cursor] ++ List.range (min cursor count)).Perm (List.range (min (cursor + 1) count)) := by
  have hnow : min cursor count = cursor := by omega
  have hnext : min (cursor + 1) count = cursor + 1 := by omega
  simpa only [hnow, hnext, List.range_succ] using List.perm_append_comm

section Step

variable {work : Work σ τ ρ} {inv : σ → Prop} {outcome : Nat → ρ} {pool : WorkerPool σ τ ρ}
  {k : Nat} {w : Worker τ ρ}

theorem Sound.index_lt (hpool : Sound work inv outcome pool) (hk : pool.workers[k]? = some w)
    (index : Nat) (hindex : Phase.index? w.phase = some index) :
    index < min pool.cursor work.count := by
  have htaken : index ∈ pool.taken :=
    List.mem_flatMap.mpr ⟨w, List.mem_of_getElem? hk, by simp [Worker.taken, hindex]⟩
  exact List.mem_range.mp (hpool.taken.mem_iff.mp htaken)

theorem Sound.step_looking (hpool : Sound work inv outcome pool)
    (hk : pool.workers[k]? = some w) (hphase : w.phase = .looking) :
    Sound work inv outcome (stepWorker work pool k w) := by
  have hw := hpool.workers w (List.mem_of_getElem? hk)
  simp only [stepWorker, hphase]
  refine hpool.changePhase hk rfl hpool.shared rfl hpool.failed ⟨?_, hw.kept⟩ ?_
  · by_cases hfailed : pool.failed = true
    · rw [if_pos hfailed]
      exact Or.inr (hpool.failed hfailed)
    · rw [if_neg hfailed]
      trivial
  · by_cases hfailed : pool.failed = true <;>
      simp [Worker.taken, Phase.index?, hphase, hfailed]

theorem Sound.step_taking (hpool : Sound work inv outcome pool)
    (hk : pool.workers[k]? = some w) (hphase : w.phase = .taking) :
    Sound work inv outcome (stepWorker work pool k w) := by
  have hw := hpool.workers w (List.mem_of_getElem? hk)
  have hfailed : pool.failed = true →
      FailsBelow work outcome (min (pool.cursor + 1) work.count) :=
    fun hfailed => (hpool.failed hfailed).mono (by omega)
  by_cases hleft : pool.cursor < work.count
  · simp only [stepWorker, hphase, if_pos hleft]
    -- The task taken is the one at the cursor, so the tasks taken stay an initial part.
    exact hpool.change [pool.cursor] hk rfl hpool.shared (Nat.le_succ _) hfailed
      ⟨.start, hw.kept⟩ (by simp [Worker.taken, Phase.index?, hphase]) (range_succ_perm hleft)
  · simp only [stepWorker, hphase, if_neg hleft]
    -- The cursor runs past the last task; nothing is taken and the worker exits.
    refine hpool.change [] hk rfl hpool.shared (Nat.le_succ _) hfailed
      ⟨Or.inl (by simp only; omega), hw.kept⟩ (by simp [Worker.taken, Phase.index?, hphase]) ?_
    have hsame : min (pool.cursor + 1) work.count = min pool.cursor work.count := by omega
    simp only [hsame, List.nil_append]
    exact List.Perm.refl _

theorem Sound.step_working (hfixed : work.FixedOutcomes inv outcome)
    (hpool : Sound work inv outcome pool) (hk : pool.workers[k]? = some w) {index : Nat} {task : τ}
    (hphase : w.phase = .working index task) :
    Sound work inv outcome (stepWorker work pool k w) := by
  have hw := hpool.workers w (List.mem_of_getElem? hk)
  have hunderway : work.Underway inv index task := by
    simpa only [hphase, PhaseSound] using hw.phase
  have hindex : index < work.count := by
    have := hpool.index_lt hk index (by rw [hphase]; rfl)
    omega
  have hkeeps := hfixed.keeps hindex hunderway hpool.shared
  simp only [stepWorker, hphase]
  cases hnext : (work.advance task pool.shared).2 with
  | inl next =>
      exact hpool.changePhase hk rfl hkeeps rfl hpool.failed
        ⟨.advance hunderway hpool.shared hnext, hw.kept⟩
        (by simp [Worker.taken, Phase.index?, hphase])
  | inr result =>
      have hresult := hfixed.ends hindex hunderway hpool.shared hnext
      refine hpool.changePhase hk rfl hkeeps rfl hpool.failed ⟨?_, hw.kept⟩ ?_
      · by_cases hfailure : work.isFailure result = true
        · simp only [if_pos hfailure]
          exact ⟨hresult, hfailure⟩
        · simp only [if_neg hfailure]
          exact hresult
      · by_cases hfailure : work.isFailure result = true <;>
          simp [Worker.taken, Phase.index?, hphase, hfailure]

theorem Sound.step_telling (hpool : Sound work inv outcome pool)
    (hk : pool.workers[k]? = some w) {index : Nat} {result : ρ}
    (hphase : w.phase = .telling index result) :
    Sound work inv outcome (stepWorker work pool k w) := by
  have hw := hpool.workers w (List.mem_of_getElem? hk)
  obtain ⟨hresult, hfailure⟩ : result = outcome index ∧ work.isFailure result = true := by
    simpa only [hphase, PhaseSound] using hw.phase
  -- The flag is set for a task that is among those taken, which is what `failed` asks for.
  have hindex := hpool.index_lt hk index (by rw [hphase]; rfl)
  simp only [stepWorker, hphase]
  exact hpool.changePhase hk rfl hpool.shared rfl (fun _ => ⟨index, hindex, hresult ▸ hfailure⟩)
    ⟨hresult, hw.kept⟩ (by simp [Worker.taken, Phase.index?, hphase])

theorem Sound.step_keeping (hpool : Sound work inv outcome pool)
    (hk : pool.workers[k]? = some w) {index : Nat} {result : ρ}
    (hphase : w.phase = .keeping index result) :
    Sound work inv outcome (stepWorker work pool k w) := by
  have hw := hpool.workers w (List.mem_of_getElem? hk)
  have hresult : result = outcome index := by
    simpa only [hphase, PhaseSound] using hw.phase
  simp only [stepWorker, hphase]
  refine hpool.changePhase hk rfl hpool.shared rfl hpool.failed ⟨trivial, ?_⟩ ?_
  · intro entry hentry
    rcases List.mem_append.mp hentry with hentry | hentry
    · exact hw.kept entry hentry
    · obtain rfl := List.mem_singleton.mp hentry
      exact hresult
  · simp [Worker.taken, Phase.index?, hphase]

end Step

theorem Sound.step {work : Work σ τ ρ} {inv : σ → Prop} {outcome : Nat → ρ}
    {pool : WorkerPool σ τ ρ} (hfixed : work.FixedOutcomes inv outcome)
    (hpool : Sound work inv outcome pool) (k : Nat) :
    Sound work inv outcome (pool.step work k) := by
  rw [WorkerPool.step]
  split
  · rename_i w hk
    cases hphase : w.phase with
    | looking => exact hpool.step_looking hk hphase
    | taking => exact hpool.step_taking hk hphase
    | working index task => exact hpool.step_working hfixed hk hphase
    | telling index result => exact hpool.step_telling hk hphase
    | keeping index result => exact hpool.step_keeping hk hphase
    | exited => simpa only [stepWorker, hphase] using hpool
  · exact hpool

theorem Sound.run {work : Work σ τ ρ} {inv : σ → Prop} {outcome : Nat → ρ}
    {pool : WorkerPool σ τ ρ} (hfixed : work.FixedOutcomes inv outcome)
    (hpool : Sound work inv outcome pool) (schedule : List Nat) :
    Sound work inv outcome (pool.run work schedule) := by
  induction schedule generalizing pool with
  | nil => exact hpool
  | cons k schedule ih => exact ih (hpool.step hfixed k)

@[simp] theorem length_workers_stepWorker (work : Work σ τ ρ) (pool : WorkerPool σ τ ρ) (k : Nat)
    (w : Worker τ ρ) : (stepWorker work pool k w).workers.length = pool.workers.length := by
  simp only [stepWorker]
  split <;> simp [setWorker]

@[simp] theorem length_workers_step (work : Work σ τ ρ) (pool : WorkerPool σ τ ρ) (k : Nat) :
    (pool.step work k).workers.length = pool.workers.length := by
  rw [WorkerPool.step]
  split <;> simp

@[simp] theorem length_workers_run (work : Work σ τ ρ) (pool : WorkerPool σ τ ρ)
    (schedule : List Nat) : (pool.run work schedule).workers.length = pool.workers.length := by
  induction schedule generalizing pool with
  | nil => rfl
  | cons k schedule ih => exact (ih (pool.step work k)).trans (length_workers_step work pool k)

section Done

variable {work : Work σ τ ρ} {inv : σ → Prop} {outcome : Nat → ρ} {pool : WorkerPool σ τ ρ}

theorem phase_eq_exited_of_isDone (hdone : pool.isDone = true) {w : Worker τ ρ}
    (hw : w ∈ pool.workers) : w.phase = .exited := by
  have hexited := List.all_eq_true.mp hdone w hw
  cases hphase : w.phase with
  | exited => rfl
  | _ => simp [hphase, Phase.isExited] at hexited

theorem map_fst_kept_of_isDone (hdone : pool.isDone = true) :
    (pool.workers.flatMap (·.kept)).map Prod.fst = pool.taken := by
  rw [List.map_flatMap, WorkerPool.taken]
  refine List.flatMap_congr fun w hw => ?_
  simp [Worker.taken, phase_eq_exited_of_isDone hdone hw, Phase.index?]

end Done

end WorkerPool

end Lexgen
