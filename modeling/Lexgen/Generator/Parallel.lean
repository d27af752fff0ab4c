import Lexgen.Generator.Basic
import Lexgen.WorkerPool

namespace Lexgen.Generator

/-- A document under way. -/
inductive Task where
  | load (path : Path)
  | write (lexicon : Lexicon) (files : List SourceFile) (written : List Path)

/-- The result of an action, as that of a task. -/
def afterAction {α : Type} (action : Action α) (next : α → Task ⊕ Except Error Outcome)
    (w : World) : World × (Task ⊕ Except Error Outcome) :=
  match action.run.run w with
  | (.ok a, w) => (w, next a)
  | (.error e, w) => (w, .inr (.error e))

/-- Loads a document and works out its files. -/
def loadAndPrepare (g : Generator) (out p : Path) :
    Action (Outcome ⊕ Lexicon × List SourceFile) := do
  match ← load p with
  | .inl outcome => return .inl outcome
  | .inr lexicon => return .inr (lexicon, ← g.prepare lexicon out)

/-- A step of a task. -/
def Task.advance (g : Generator) (out : Path) :
    Task → World → World × (Task ⊕ Except Error Outcome)
  | .load p =>
    afterAction (g.loadAndPrepare out p) fun
      | .inl outcome => .inr (.ok outcome)
      | .inr (lexicon, files) => .inl (.write lexicon files [])
  | .write lexicon (file :: files) written =>
    afterAction (Action.emit out .wroteFile file) fun path =>
      .inl (.write lexicon files (written ++ [path]))
  | .write lexicon [] written =>
    afterAction (conclude lexicon written) fun _ => .inr (.ok (.compiled lexicon written))

/-- The work on documents. -/
def work (g : Generator) (out : Path) (paths : List Path) :
    Work World Task (Except Error Outcome) where
  count := paths.length
  start index := .load (paths.getD index ⟨""⟩)
  advance := Task.advance g out
  isFailure result := result matches .error _

/-- The steps of a worker from one document to the next: three of its own around the work, a failure
told, and the work on a document, which has at most three files. -/
def stepsPerDocument : Nat := 9

/-- More rounds than a pool needs for a number of documents. -/
def roundsFor (count : Nat) : Nat := stepsPerDocument * (count + 1) + 2

/-- The report on documents in order, up to the first without a result. -/
def collect (r : Report) : List (Path × Option (Except Error Outcome)) → Except Error Report
  | [] => .ok r
  | (_, none) :: _ => .ok r
  | (p, some result) :: rest => do collect (r.record p (← result)) rest

/-- Works on documents with a number of workers, who go in the order of a schedule. -/
def processPooled (g : Generator) (out : Path) (jobs : Nat) (schedule : List Nat) (r : Report)
    (paths : List Path) : Action Report := do
  let pool := (WorkerPool.ofSize (min jobs paths.length) (← get)).run (g.work out paths) schedule
  set pool.shared
  match collect r (paths.zip (pool.results paths.length)) with
  | .ok report => return report
  | .error e => throw e

/-- Loads, compiles and writes documents. With several jobs they are shared among as many workers,
who go in the order of a schedule. A malformed document is reported and passed over; any other
failure ends the run. -/
def writeDocumentsBy (g : Generator) (schedule : List Nat) (paths : List Path) (out : Path)
    (jobs : Nat) : Action Report := do
  let r : Report := { written := ← g.writeCommon out }
  if jobs ≤ 1 ∨ paths.length ≤ 1 then g.processAll out r paths
  else g.processPooled out jobs schedule r paths

/-- The schedule in which the workers for a number of documents take turns until all are done. -/
def turns (jobs count : Nat) : List Nat := WorkerPool.roundRobin (min jobs count) (roundsFor count)

/-- Loads, compiles and writes documents, by workers that take turns. -/
def writeDocuments (g : Generator) (paths : List Path) (out : Path) (jobs : Nat) :
    Action Report :=
  g.writeDocumentsBy (turns jobs paths.length) paths out jobs

end Lexgen.Generator
