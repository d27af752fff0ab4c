import Lexgen.Artifact
import Lexgen.Error
import Lexgen.Inputs

/-!
What a run works on: a disk, the output roots that are ready, and the reports so far. An action
that fails leaves what it did before.
-/

namespace Lexgen

open Lexgen.Text

structure World where
  disk : Disk := {}
  /-- The output roots that hold the support files. -/
  ready : List Path := []
  events : List Event := []

abbrev Action := ExceptT Error (StateM World)

namespace Action

def report (events : List Event) : Action Unit :=
  modify fun w => { w with events := w.events ++ events }

/-- Writes a file and makes the directories around it. -/
def writeFile (p : Path) (contents : String) : Action Unit := do
  let w ← get
  let (disk, result) := w.disk.writeFile p (encode contents)
  set { w with disk }
  match result with
  | .ok _ => return ()
  | .error (path, fault) => throw (.io path fault)

/-- Writes a file below an output root, and reports it. -/
def emit (out : Path) (event : Path → Event) (file : SourceFile) : Action Path := do
  let path := out.join file.path
  writeFile path file.contents
  report [event path]
  return path

/-- Reads from the disk. -/
def query {α : Type} (f : Disk → Except Error α) : Action α := do
  match f (← get).disk with
  | .ok a => return a
  | .error e => throw e

/-- The files of all inputs. -/
def expandInputs (inputs : List String) : Action (List Path) := do
  let (events, found) := Inputs.expandAll (← get).disk inputs
  report events
  match found with
  | .ok paths => return paths
  | .error e => throw e

/-- Reads and compiles the document in a file. -/
def loadFile (p : Path) : Action Lexicon := do
  let (lexicon, events) ← query (Inputs.loadFile · p)
  report events
  return lexicon

end Action

end Lexgen
