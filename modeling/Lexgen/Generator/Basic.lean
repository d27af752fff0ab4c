import Lexgen.World

namespace Lexgen

/-- What came of a document. -/
inductive Outcome where
  | compiled (lexicon : Lexicon) (written : List Path)
  | malformed (error : Error)

/-- What came of a run. -/
structure Report where
  /-- The files written: the support files, then those of each document in turn. -/
  written : List Path := []
  /-- The NSIDs of documents without code. -/
  empty : List String := []
  malformed : List (Path × Error) := []
  lexicons : List Lexicon := []

/-- The report with the outcome of a further document. -/
def Report.record (r : Report) (p : Path) : Outcome → Report
  | .compiled lexicon written =>
    { r with
      written := r.written ++ written
      empty := r.empty ++ if written.isEmpty then [lexicon.nsid] else []
      lexicons := r.lexicons ++ [lexicon] }
  | .malformed error => { r with malformed := r.malformed ++ [(p, error)] }

/-- A generator is known by the module that the emitted code calls for support. -/
structure Generator where
  runtimeModule : String
  deriving DecidableEq, Repr

namespace Generator

/-- Writes the support files into an output root, once. -/
def writeCommon (g : Generator) (out : Path) : Action (List Path) := do
  if (← get).ready.any out.same then return []
  let written ← (supportFiles g.runtimeModule).mapM (Action.emit out .wroteCommonFile)
  modify fun w => { w with ready := out :: w.ready }
  return written

/-- Makes an output root ready and works out the files of a lexicon. -/
def prepare (g : Generator) (lexicon : Lexicon) (out : Path) : Action (List SourceFile) := do
  let _ ← g.writeCommon out
  let (files, events) := lexicon.generate g.runtimeModule
  Action.report events
  return files

/-- Reports on the files that were written for a lexicon. -/
def conclude (lexicon : Lexicon) (written : List Path) : Action Unit :=
  Action.report <|
    if written.isEmpty then [.nothingGenerated lexicon.nsid]
    else [.generated lexicon.nsid written.length]

/-- Writes the files of a lexicon below an output root. -/
def writeLexicon (g : Generator) (lexicon : Lexicon) (out : Path) : Action (List Path) := do
  let files ← g.prepare lexicon out
  let written ← files.mapM (Action.emit out .wroteFile)
  conclude lexicon written
  return written

/-- Loads a document; one that is malformed is reported and has its outcome. -/
def load (p : Path) : Action (Outcome ⊕ Lexicon) :=
  tryCatch (return .inr (← Action.loadFile p)) fun e => do
    if e.isDocumentError then
      Action.report [.skippedMalformed p e.message]
      return .inl (.malformed e)
    else throw e

/-- Loads, compiles and writes a document. -/
def process (g : Generator) (out p : Path) : Action Outcome := do
  match ← load p with
  | .inl outcome => return outcome
  | .inr lexicon => return .compiled lexicon (← g.writeLexicon lexicon out)

/-- Works on documents one after the other, until one fails. -/
def processAll (g : Generator) (out : Path) (r : Report) : List Path → Action Report
  | [] => return r
  | p :: rest => do
    let outcome ← g.process out p
    g.processAll out (r.record p outcome) rest

end Generator

end Lexgen
