import Lexgen.Path
import Lexgen.Schema.Kind

namespace Lexgen

open Lexgen.Schema

inductive Level where
  | warning
  | info
  | debug
  deriving DecidableEq, Repr

def Level.text : Level → String
  | .warning => "WARN"
  | .info => "INFO"
  | .debug => "DEBUG"

/-- What a run reports while it goes on. -/
inductive Event where
  /-- A definition was left out, since its document has another of its sort. -/
  | duplicateDefinition (nsid key : String) (kind : Kind)
  | noCode (nsid key : String) (kind : Option Kind)
  | noBoundPair (field : String)
  | keptWireName (field clash : String)
  | wroteCommonFile (path : Path)
  | wroteFile (path : Path)
  | nothingGenerated (nsid : String)
  | generated (nsid : String) (files : Nat)
  | skippedMalformed (path : Path) (error : String)
  | noFilesMatched (pattern : String)
  | foundDocuments (count : Nat)
  | removedOutput (path : Path)
  | unresolvedReference (nsid reference : String)
  | checkedReferences (unresolved : Nat)
  | leftOut (path : Path) (error : String)
  | someLeftOut (count : Nat)
  | complete (files lexicons empty : Nat) (output : Path)
  deriving DecidableEq, Repr

namespace Event

def level : Event → Level
  | .duplicateDefinition .. => .warning
  | .noCode .. => .debug
  | .noBoundPair .. => .debug
  | .keptWireName .. => .debug
  | .wroteCommonFile .. => .debug
  | .wroteFile .. => .debug
  | .nothingGenerated .. => .info
  | .generated .. => .info
  | .skippedMalformed .. => .warning
  | .noFilesMatched .. => .warning
  | .foundDocuments .. => .info
  | .removedOutput .. => .info
  | .unresolvedReference .. => .warning
  | .checkedReferences .. => .info
  | .leftOut .. => .warning
  | .someLeftOut .. => .warning
  | .complete .. => .info

def message : Event → String
  | .duplicateDefinition .. =>
    "skipping duplicate definition; only one record and one query or procedure are emitted " ++
      "per document"
  | .noCode .. => "no code emitted for definition kind"
  | .noBoundPair .. => "no recognised bound pair; no check emitted"
  | .keptWireName .. => "keeping wire name for parameter"
  | .wroteCommonFile .. => "wrote common file"
  | .wroteFile .. => "wrote file"
  | .nothingGenerated .. => "no recognised definitions, nothing generated"
  | .generated .. => "generated"
  | .skippedMalformed .. => "skipping malformed lexicon"
  | .noFilesMatched .. => "pattern matched no files"
  | .foundDocuments .. => "found lexicon documents"
  | .removedOutput .. => "removed output directory"
  | .unresolvedReference .. => "unresolved reference"
  | .checkedReferences .. => "checked references"
  | .leftOut .. => "malformed lexicon was skipped"
  | .someLeftOut .. => "some documents were not generated"
  | .complete .. => "generation complete"

/-- What the event is about, by name. -/
def details : Event → List (String × String)
  | .duplicateDefinition nsid key kind => [("nsid", nsid), ("key", key), ("kind", kind.tag)]
  | .noCode nsid key kind =>
    [("nsid", nsid), ("key", key), ("kind", (kind.map Kind.tag).getD "<none>")]
  | .noBoundPair field => [("field", field)]
  | .keptWireName field clash => [("field", field), ("clashes_with", clash)]
  | .wroteCommonFile path => [("path", path.text)]
  | .wroteFile path => [("path", path.text)]
  | .nothingGenerated nsid => [("nsid", nsid)]
  | .generated nsid files => [("nsid", nsid), ("files", toString files)]
  | .skippedMalformed path error => [("path", path.text), ("error", error)]
  | .noFilesMatched pattern => [("pattern", pattern)]
  | .foundDocuments count => [("documents", toString count)]
  | .removedOutput path => [("output", path.text)]
  | .unresolvedReference nsid reference => [("from", nsid), ("reference", reference)]
  | .checkedReferences unresolved => [("unresolved", toString unresolved)]
  | .leftOut path error => [("path", path.text), ("error", error)]
  | .someLeftOut count => [("skipped", toString count)]
  | .complete files lexicons empty output =>
    [("files", toString files), ("lexicons", toString lexicons), ("empty", toString empty),
      ("output", output.text)]

/-- The event on a line: level, message and details. -/
def line (e : Event) : String :=
  " ".intercalate
    (e.level.text :: e.message :: e.details.map fun (name, value) => name ++ "=" ++ value)

end Event

end Lexgen
