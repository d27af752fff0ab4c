import Lexgen.Error
import Lexgen.Event
import Lexgen.Glob.Expand
import Lexgen.Lexicon.Basic

namespace Lexgen

open Lexgen.Text

namespace Inputs

/-- Whether a file in a directory is taken for a document. -/
def isDocumentName (p : Path) : Bool :=
  p.fileName?.bind Path.nameExtension? = some "json"

/-- The files that an input stands for: the documents in a directory, a file itself, or the files
that match a pattern. -/
def expand (d : Disk) (input : String) : Except Error (List Path × List Event) :=
  let path : Path := ⟨input⟩
  if d.isDirectory path then
    .ok (((d.filesBelow path).map Prod.fst).filter isDocumentName, [])
  else if d.isFile path then .ok ([path], [])
  else
    match Glob.Pattern.parse input with
    | .error e => .error (.pattern input e)
    | .ok pattern =>
      let found := (pattern.expand d).filter d.isFile
      .ok (found, if found.isEmpty then [.noFilesMatched input] else [])

/-- The list without elements that are the same path as the one before. -/
def dropRepeated : List Path → List Path
  | [] => []
  | p :: rest => p :: (dropRepeated rest).dropWhile p.same

/-- The files of all inputs in turn, with the reports on the inputs that matched none. -/
def expandEach (d : Disk) : List String → List Event × Except Error (List Path)
  | [] => ([], .ok [])
  | input :: rest =>
    match expand d input with
    | .error e => ([], .error e)
    | .ok (found, events) =>
      let (later, others) := expandEach d rest
      (events ++ later, others.map (found ++ ·))

/-- The files of all inputs, in order of their paths and each once. -/
def expandAll (d : Disk) (inputs : List String) : List Event × Except Error (List Path) :=
  let (events, found) := expandEach d inputs
  (events, found.map fun paths => dropRepeated (paths.mergeSort Path.le))

/-- The bytes of a document. -/
def readDocument (d : Disk) (p : Path) : Except Error Bytes :=
  match d.read p with
  | .ok bytes => .ok bytes
  | .error fault => .error (.io p fault)

/-- Reads and compiles the document in a file. -/
def loadFile (d : Disk) (p : Path) : Except Error (Lexicon × List Event) := do
  let bytes ← readDocument d p
  match Lexicon.parse bytes with
  | .ok compiled => return compiled
  | .error problem => throw (.malformed problem (some ⟨p, Utf8.decodeLossy bytes⟩))

/-- Reads the configuration in a file. -/
def loadConfig (d : Disk) (p : Path) : Except Error Config := do
  let bytes ← readDocument d p
  match Utf8.decode? bytes with
  | none => throw (.io p .notUtf8)
  | some text =>
    match Config.parse text with
    | .ok config => return config
    | .error problem => throw (.config problem (some p))

/-- The configuration in the named file, or in the default file if there is one. -/
def discoverConfig (d : Disk) : Option Path → Except Error (Option Config)
  | some p => return some (← loadConfig d p)
  | none =>
    if d.isFile Config.defaultFile then return some (← loadConfig d Config.defaultFile)
    else return none

end Inputs

end Lexgen
