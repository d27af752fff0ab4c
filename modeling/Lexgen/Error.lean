import Lexgen.Config
import Lexgen.Disk.Basic
import Lexgen.Document.Basic
import Lexgen.Emit.Template
import Lexgen.Glob.Pattern

namespace Lexgen

open Lexgen.Text

/-- The file that a document was read from, and its text. -/
structure Origin where
  path : Path
  text : String
  deriving DecidableEq, Repr

/-- Why a run, or the part of it that concerns one document, fails. -/
inductive Error where
  | malformed (problem : Document.Problem) (origin : Option Origin)
  | io (path : Path) (fault : DiskFault)
  | pattern (pattern : String) (error : Glob.Error)
  | config (problem : Config.Problem) (path : Option Path)
  /-- A template was given the bindings of another. -/
  | render (template : Emit.Template)
  deriving DecidableEq, Repr

/-- The number of bytes before the given line, counted from zero. -/
def lineStart : Nat → Bytes → Nat
  | 0, _ => 0
  | _ + 1, [] => 0
  | line + 1, b :: rest => 1 + lineStart (if b = 10 then line else line + 1) rest

/-- The byte just before a place in a text, given by its line counted from one and the number of
bytes before it on the line. At the start of a line it is the first byte of the line, and no place
lies behind the end of the text. The sum is one of words and wraps around. -/
def byteOffset (src : Bytes) (line column : UInt64) : Option UInt64 :=
  if line = 0 then none
  else
    let onLine := if column = 0 then 0 else column - 1
    some (min (.ofNat (lineStart (line - 1).toNat src) + onLine) (.ofNat src.length))

namespace Error

/-- The path of a file as a message names it. -/
def pathText : Option Path → String
  | some path => " " ++ path.text
  | none => ""

def message : Error → String
  | .malformed problem origin =>
    "Malformed lexicon document" ++ pathText (origin.map (·.path)) ++ ": " ++ problem.message
  | .io path fault => "IO error at " ++ path.text ++ ": " ++ fault.message
  | .pattern text _ => "Invalid path pattern `" ++ text ++ "`"
  | .config problem path => "Invalid config" ++ pathText path ++ ": " ++ problem.message
  | .render template =>
    "Failed to render template " ++ template.name ++ ": bindings do not belong to this template"

def code : Error → String
  | .malformed .. => "lexicon::malformed"
  | .io .. => "lexicon::io"
  | .pattern .. => "lexicon::pattern"
  | .config .. => "lexicon::config"
  | .render .. => "lexicon::render"

def help : Error → Option String
  | .malformed .. =>
    some "A lexicon document needs a string `id` holding an NSID and a `defs` object"
  | .pattern .. =>
    some "Patterns may be files, directories, or globs such as lexicons/**/*.json"
  | _ => none

/-- Whether the error concerns one document only; a run goes on after such an error. -/
def isDocumentError : Error → Bool
  | .malformed .. => true
  | _ => false

/-- The place of the error in the text of its document, in bytes. -/
def offset? : Error → Option Nat
  | .malformed problem (some origin) =>
    problem.position?.bind fun p =>
      (byteOffset (encode origin.text) (.ofNat p.line) (.ofNat p.column)).map UInt64.toNat
  | _ => none

end Error

end Lexgen
