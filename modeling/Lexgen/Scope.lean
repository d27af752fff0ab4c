import Lexgen.Disk.Basic
import Lexgen.Settings

namespace Lexgen.Scope

open Lexgen.Text

/-- Whether a component of an input is a pattern. -/
def isPattern (piece : String) : Bool := piece.toList.any ['*', '?', '['].contains

/-- The path that all files of an input lie below: what comes before its first pattern. -/
def base (input : String) : Path :=
  let pieces := (segments '/' input).takeWhile fun piece => !isPattern piece
  let text := "/".intercalate pieces
  if text ≠ "" then ⟨text⟩ else if input.toList.head? = some '/' then ⟨"/"⟩ else ⟨"."⟩

/-- The configuration files that arguments ask for. -/
def configFiles (args : Arguments) : List Path := [args.config.getD Config.defaultFile]

/-- The paths below which a run reads and writes. -/
def roots (s : Settings) : List Path := s.output :: s.inputs.map base

/-- The place of a path seen from a directory; two dots go up. -/
def place (directory : Place) (p : Path) : Place :=
  p.components.foldl (fun here c =>
    match c with
    | .root => []
    | .here => here
    | .up => here.dropLast
    | .name name => here ++ [name]) directory

/-- A place as an absolute path. -/
def absolute (place : Place) : Path := ⟨"/" ++ "/".intercalate place⟩

/-- What has to be removed to get from one tree to another: the entries that are gone, innermost
first. -/
def removals (before after : FileTree) : List (Place × Entry) :=
  (before.entries.filter fun (p, _) => (after.get? p).isNone).reverse

/-- What has to be set to get from one tree to another: the entries that are new or have changed,
directories before what they hold. -/
def changes (before after : FileTree) : List (Place × Entry) :=
  after.entries.filter fun (p, e) => before.get? p != some e

end Lexgen.Scope
