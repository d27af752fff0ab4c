import Lexgen.Definition.Basic
import Lexgen.Document.Reader
import Lexgen.Event
import Lexgen.Schema.References

namespace Lexgen

open Lexgen.Schema

/-- A document compiled into definitions. -/
structure Lexicon where
  nsid : String
  /-- The segments of the NSID but the last. -/
  domain : String
  /-- The last segment of the NSID. -/
  name : String
  titleNsid : String
  titleDomain : String
  titleName : String
  description : Option String
  revision : Option Nat
  /-- The keys of all entries, whether code is emitted for them or not. -/
  keys : List String
  /-- The references in the document, qualified, in ascending order. -/
  references : List String
  definitions : Definitions
  deriving Repr

namespace Lexicon

/-- Adds an entry to the definitions. An entry without code and one that comes too late are
reported. -/
def addEntry (nsid : String) (ds : Definitions) (key : String) (node : Json) :
    Definitions × List Event :=
  match Definition.ofNode nsid key node with
  | .error kind => (ds, [.noCode nsid key kind])
  | .ok d =>
    match ds.offer d with
    | (ds, none) => (ds, [])
    | (ds, some rejected) => (ds, [.duplicateDefinition nsid rejected.key rejected.kind])

/-- Adds entries in turn. -/
def addEntries (nsid : String) (ds : Definitions) :
    List (String × Json) → Definitions × List Event
  | [] => (ds, [])
  | (key, node) :: rest =>
    let (ds, events) := addEntry nsid ds key node
    let (ds, later) := addEntries nsid ds rest
    (ds, events ++ later)

/-- Compiles a document. -/
def ofDocument (doc : Document) : Lexicon × List Event :=
  let (domain, name) := Names.splitNsid doc.id
  let (definitions, events) := addEntries doc.id {} doc.defs
  ({ nsid := doc.id
     domain
     name
     titleNsid := Names.titleCase doc.id
     titleDomain := Names.titleCase domain
     titleName := Names.titleCase name
     description := doc.description
     revision := doc.revision
     keys := doc.defs.map Prod.fst
     references := sortedSet (doc.defs.flatMap fun (_, node) => Schema.references doc.id node)
     definitions },
    events)

/-- Reads and compiles a document. -/
def parse (bytes : Text.Bytes) : Except Document.Problem (Lexicon × List Event) :=
  return ofDocument (← Document.parse bytes)

/-- Compiles a document that is a JSON value. -/
def ofJson (value : Json) : Except Document.Problem (Lexicon × List Event) :=
  return ofDocument (← Document.ofJson value)

/-- The module of a definition. -/
def moduleName (l : Lexicon) (key : String) : String := Names.moduleName l.nsid key

/-- The directory of the lexicon's files below the output root. -/
def directory (l : Lexicon) : Path := Names.directory l.nsid

def hasKey (l : Lexicon) (key : String) : Bool := l.keys.contains key

end Lexicon

end Lexgen
