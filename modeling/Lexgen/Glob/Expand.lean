import Lexgen.Disk.Basic
import Lexgen.Glob.Pattern

namespace Lexgen.Glob

/-- Whether a path is that of the working directory. Paths below it are spelled without it. -/
def isHere (p : Path) : Bool := p.same ⟨"."⟩

/-- The path of an entry of a directory. -/
def child (p : Path) (name : String) : Path := if isHere p then ⟨name⟩ else p.join ⟨name⟩

def isDots (name : String) : Bool := name = "." || name = ".."

/-- Whether the name of an entry matches a component. -/
def Piece.matches (name : String) : Piece → Bool
  | .literal expected => name = expected
  | .wild tokens => matchesName tokens name.toList
  | .directories => true

/-- The entries of a directory that match a component. Dots match only a component that starts
with a dot. -/
def wildEntries (d : Disk) (p : Path) (tokens : List Token) : List Path :=
  match d.locate p with
  | .error _ => []
  | .ok place =>
    let names := ((d.tree.children place).map Prod.fst).filter fun name =>
      matchesName tokens name.toList
    let dots := if tokens.head? = some (.char '.') then
        [".", ".."].filter fun name => matchesName tokens name.toList
      else []
    names.map (child p) ++ dots.map fun name => p.join ⟨name⟩

/-- All that lies below a directory, each with its name. -/
def descendants (d : Disk) (p : Path) : List (Path × String) :=
  match d.locate p with
  | .error _ => []
  | .ok place =>
    (d.tree.below place).filterMap fun (names, _) =>
      match names with
      | [] => none
      | first :: rest =>
        some (rest.foldl (fun q name => q.join ⟨name⟩) (child p first), rest.getLastD first)

/-- The paths that match components, seen from a path. -/
def expandFrom (d : Disk) : List Piece → Path → List Path
  | [], p => [p]
  | .literal name :: rest, p =>
    if if isDots name then d.isDirectory p else (d.entry? (child p name)).isSome then
      expandFrom d rest (child p name)
    else []
  | .wild tokens :: rest, p =>
    if d.isDirectory p then (wildEntries d p tokens).flatMap (expandFrom d rest) else []
  | [.directories], p =>
    ((descendants d p).map Prod.fst).filter d.isDirectory
  | .directories :: piece :: rest, p =>
    ((descendants d p).filter fun (_, name) => piece.matches name).flatMap fun (q, _) =>
      expandFrom d rest q

/-- The paths that match a pattern. -/
def Pattern.expand (d : Disk) (pattern : Pattern) : List Path :=
  let found := expandFrom d pattern.pieces ⟨if pattern.absolute then "/" else "."⟩
  if pattern.directoriesOnly then found.filter d.isDirectory else found

end Lexgen.Glob
