import Lexgen.Emit.CallFile
import Lexgen.Emit.PrimaryKey
import Lexgen.Emit.RecordFile
import Lexgen.Emit.StructFile
import Lexgen.Emit.SupportFile
import Lexgen.Lexicon.Basic

namespace Lexgen

open Lexgen.Emit

/-- The sorts of files of a lexicon, in the order in which they are emitted. -/
inductive Artifact where
  | structs
  | schema
  | call
  deriving DecidableEq, Repr

namespace Artifact

def fileName : Artifact → String
  | .structs => "struct.ex"
  | .schema => "schema.ex"
  | .call => "xrpc.ex"

def name : Artifact → String
  | .structs => "struct"
  | .schema => "schema"
  | .call => "xrpc"

/-- Which files a lexicon is emitted as. -/
def plan (l : Lexicon) : List Artifact :=
  (if l.definitions.structs.isEmpty then [] else [.structs]) ++
    (if l.definitions.record.isSome then [.schema] else []) ++
    (if l.definitions.call.isSome then [.call] else [])

end Artifact

/-- A file to write, with its path below the output root. -/
structure SourceFile where
  path : Path
  contents : String
  deriving DecidableEq, Repr

namespace Lexicon

def structFile (l : Lexicon) (structs : List StructDef) : StructFile where
  nsid := l.nsid
  modules := structs.map fun d =>
    { moduleName := l.moduleName d.key
      description := d.description
      fields := d.fields.map FieldText.ofField }

def recordFile (l : Lexicon) (runtimeModule : String) (d : RecordDef) : RecordFile × List Event :=
  let (steps, events) := validation d.fields
  ({ nsid := l.nsid
     moduleName := l.moduleName d.key
     description := d.description
     source := Names.sourceName l.nsid
     primaryKey := d.primaryKey
     primaryKeyAtom := atom (primaryKeyName d.fields)
     runtimeModule
     fields := d.fields.map FieldText.ofField
     validation := steps },
    events)

def callFile (l : Lexicon) (runtimeModule : String) (kind : CallKind) (d : CallDef) :
    CallFile × List Event :=
  let (params, events) := Param.ofFields d.inputFields
  ({ nsid := d.nsid
     moduleName := l.moduleName d.key
     kind
     function := Text.snakeCase l.name
     description := d.description
     params
     paramsType := Param.mapType params
     inputType := d.inputType.map (·.typeSpec)
     outputType := d.outputType.typeSpec
     inputEncoding := d.inputEncoding
     outputEncoding := d.outputEncoding
     errors := d.errors
     runtimeModule },
    events)

/-- The contents of an artifact; nothing if the lexicon has no definition for it. -/
def artifact? (l : Lexicon) (runtimeModule : String) : Artifact → Option (String × List Event)
  | .structs =>
    if l.definitions.structs.isEmpty then none
    else some ((l.structFile l.definitions.structs).text, [])
  | .schema =>
    l.definitions.record.map fun d =>
      let (file, events) := l.recordFile runtimeModule d
      (file.text, events)
  | .call =>
    l.definitions.call.map fun (kind, d) =>
      let (file, events) := l.callFile runtimeModule kind d
      (file.text, events)

/-- The files that a lexicon is emitted as. -/
def generate (l : Lexicon) (runtimeModule : String) : List SourceFile × List Event :=
  let emitted := (Artifact.plan l).filterMap fun a =>
    (l.artifact? runtimeModule a).map fun (contents, events) =>
      ((⟨l.directory.join ⟨a.fileName⟩, contents⟩ : SourceFile), events)
  (emitted.map Prod.fst, emitted.flatMap Prod.snd)

end Lexicon

/-- The files at the output root. -/
def supportFiles (runtimeModule : String) : List SourceFile :=
  let support := SupportFile.ofRuntime runtimeModule
  [⟨⟨"lexicon_tid.ex"⟩, support.tidText⟩, ⟨⟨"lexicon_xrpc.ex"⟩, support.requestText⟩]

end Lexgen
