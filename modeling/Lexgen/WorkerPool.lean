/-!
A pool of workers that share a list of tasks. Each worker takes the next task, works on it in
atomic steps, and keeps the result; after a failure no worker takes a further task. A schedule says
which worker goes next.
-/

namespace Lexgen

/-- How tasks are worked on: `σ` is what the workers share, `τ` a task under way, `ρ` a result. -/
structure Work (σ τ ρ : Type) where
  /-- The number of tasks. -/
  count : Nat
  start : Nat → τ
  /-- An atomic step of a task, which leaves the task under way or ends it. -/
  advance : τ → σ → σ × (τ ⊕ ρ)
  isFailure : ρ → Bool

/-- What a worker is about to do. -/
inductive Phase (τ ρ : Type) where
  /-- Look whether some task failed. -/
  | looking
  /-- Take the next task. -/
  | taking
  | working (index : Nat) (task : τ)
  /-- Tell the others that a task failed. -/
  | telling (index : Nat) (result : ρ)
  /-- Keep a result. -/
  | keeping (index : Nat) (result : ρ)
  | exited

structure Worker (τ ρ : Type) where
  phase : Phase τ ρ := .looking
  kept : List (Nat × ρ) := []

structure WorkerPool (σ τ ρ : Type) where
  shared : σ
  /-- The number of the next task. -/
  cursor : Nat := 0
  failed : Bool := false
  workers : List (Worker τ ρ)

namespace WorkerPool

variable {σ τ ρ : Type}

/-- A pool of workers that have done nothing yet. -/
def ofSize (size : Nat) (shared : σ) : WorkerPool σ τ ρ :=
  { shared, workers := List.replicate size {} }

/-- The pool with a worker changed. -/
def setWorker (pool : WorkerPool σ τ ρ) (k : Nat) (w : Worker τ ρ) : WorkerPool σ τ ρ :=
  { pool with workers := pool.workers.set k w }

/-- The pool after the worker `w`, which is number `k`, has taken a step. -/
def stepWorker (work : Work σ τ ρ) (pool : WorkerPool σ τ ρ) (k : Nat) (w : Worker τ ρ) :
    WorkerPool σ τ ρ :=
  match w.phase with
  | .looking => pool.setWorker k { w with phase := if pool.failed then .exited else .taking }
  | .taking =>
    let phase := if pool.cursor < work.count then .working pool.cursor (work.start pool.cursor)
      else .exited
    { pool.setWorker k { w with phase } with cursor := pool.cursor + 1 }
  | .working index task =>
    let (shared, next) := work.advance task pool.shared
    let phase := match next with
      | .inl task => .working index task
      | .inr result =>
        if work.isFailure result then .telling index result else .keeping index result
    { pool.setWorker k { w with phase } with shared }
  | .telling index result =>
    { pool.setWorker k { w with phase := .keeping index result } with failed := true }
  | .keeping index result =>
    pool.setWorker k { phase := .looking, kept := w.kept ++ [(index, result)] }
  | .exited => pool

/-- The pool after a step of worker number `k`. -/
def step (work : Work σ τ ρ) (pool : WorkerPool σ τ ρ) (k : Nat) : WorkerPool σ τ ρ :=
  match pool.workers[k]? with
  | some w => stepWorker work pool k w
  | none => pool

/-- The pool after the steps of a schedule. -/
def run (work : Work σ τ ρ) (pool : WorkerPool σ τ ρ) (schedule : List Nat) : WorkerPool σ τ ρ :=
  schedule.foldl (step work) pool

def Phase.isExited : Phase τ ρ → Bool
  | .exited => true
  | _ => false

/-- Whether all workers have exited. -/
def isDone (pool : WorkerPool σ τ ρ) : Bool := pool.workers.all fun w => Phase.isExited w.phase

/-- The result of a task, if some worker kept one. -/
def result? (pool : WorkerPool σ τ ρ) (index : Nat) : Option ρ :=
  (pool.workers.flatMap (·.kept)).lookup index

/-- The results of all tasks, in order. -/
def results (pool : WorkerPool σ τ ρ) (count : Nat) : List (Option ρ) :=
  (List.range count).map pool.result?

/-- The schedule in which each worker takes a step in turn, for a number of rounds. -/
def roundRobin (size rounds : Nat) : List Nat :=
  (List.replicate rounds (List.range size)).flatten

end WorkerPool

end Lexgen
