import Lexgen.Disk.FileTree
import Lexgen.Path

namespace Lexgen

open Lexgen.Text

/-- Why an operation on files fails. -/
inductive DiskFault where
  | notFound
  | alreadyExists
  | notDirectory
  | isDirectory
  | invalidArgument
  | notEmpty
  /-- The contents read as text are not UTF-8. -/
  | notUtf8
  deriving DecidableEq, Repr

def DiskFault.message : DiskFault → String
  | .notFound => "No such file or directory (os error 2)"
  | .alreadyExists => "File exists (os error 17)"
  | .notDirectory => "Not a directory (os error 20)"
  | .isDirectory => "Is a directory (os error 21)"
  | .invalidArgument => "Invalid argument (os error 22)"
  | .notEmpty => "Directory not empty (os error 39)"
  | .notUtf8 => "stream did not contain valid UTF-8"

/-- A write of a file that the medium refuses, by how far the write comes. -/
inductive Refusal where
  /-- The directory of the file cannot be made. It is missing then, and so are `more` of those
  around it; the others are made. -/
  | directory (more : Nat) (fault : DiskFault)
  /-- The directory is made, and the file cannot be opened. -/
  | opening (fault : DiskFault)
  /-- The file is emptied, and of its contents some part is written, of `kept` bytes at most. -/
  | contents (kept : Nat) (fault : DiskFault)
  deriving DecidableEq, Repr

/-- A tree of files seen from a working directory, with the operations of an operating system. -/
structure Disk where
  tree : FileTree := .empty
  /-- Where relative paths start. -/
  workingDirectory : Place := []
  /-- The writes to come that the medium refuses, in order: each write of a file takes one. -/
  refusals : List (Option Refusal) := []
  deriving Repr

namespace Disk

/-- Follows the pieces of a path from a place. Only a directory can be passed through, and a piece
that is no name stays in it or goes up. -/
def walk (t : FileTree) : Place → List String → Except DiskFault Place
  | here, [] => .ok here
  | here, piece :: rest =>
    match t.get? here with
    | some .directory =>
      if piece = "" ∨ piece = "." then walk t here rest
      else if piece = ".." then walk t here.dropLast rest
      else if (t.get? (here ++ [piece])).isSome then walk t (here ++ [piece]) rest
      else .error .notFound
    | some (.file _) => .error .notDirectory
    | none => .error .notFound

/-- Where a path starts. -/
def origin (d : Disk) (p : Path) : Place :=
  if p.isAbsolute then [] else d.workingDirectory

/-- The place of an existing file or directory. -/
def locate (d : Disk) (p : Path) : Except DiskFault Place :=
  if p.text = "" then .error .notFound else walk d.tree (d.origin p) p.pieces

/-- What stands at a path. -/
def entry? (d : Disk) (p : Path) : Option Entry :=
  match d.locate p with
  | .ok place => d.tree.get? place
  | .error _ => none

def isDirectory (d : Disk) (p : Path) : Bool := d.entry? p == some .directory

def isFile (d : Disk) (p : Path) : Bool :=
  match d.entry? p with
  | some (.file _) => true
  | _ => false

/-- The contents of a file. -/
def read (d : Disk) (p : Path) : Except DiskFault Bytes := do
  match d.tree.get? (← d.locate p) with
  | some (.file contents) => .ok contents
  | some .directory => .error .isDirectory
  | none => .error .notFound

/-- The place at which an entry would be made: a new name in an existing directory. A path that
ends in dots is that of an entry which exists. -/
def newPlace (d : Disk) (p : Path) : Except DiskFault Place :=
  if p.text = "" then .error .notFound
  else
    match p.pieces.reverse.dropWhile (· = "") with
    | [] => .error .alreadyExists
    | last :: parents => do
      let parent ← walk d.tree (d.origin p) parents.reverse
      -- Only a directory has entries.
      let parent ← walk d.tree parent ["."]
      if last = "." ∨ last = ".." ∨ (d.tree.get? (parent ++ [last])).isSome then
        .error .alreadyExists
      else .ok (parent ++ [last])

/-- Makes a directory in an existing one. -/
def makeDirectory (d : Disk) (p : Path) : Except DiskFault Disk := do
  return { d with tree := d.tree.put (← d.newPlace p) .directory }

/-- Makes a directory and those it lies in. The list holds the directory and the ones around it,
innermost first. A directory that exists already is left as it is. -/
def makeDirectories (d : Disk) : List Path → Disk × Except DiskFault Unit
  | [] => (d, .ok ())
  | p :: around =>
    if p.text = "" then (d, .ok ())
    else
      match d.makeDirectory p with
      | .ok d => (d, .ok ())
      | .error .notFound =>
        match d.makeDirectories around with
        | (d, .error fault) => (d, .error fault)
        | (d, .ok _) => settle d p (d.makeDirectory p)
      | .error fault => settle d p (.error fault)
where
  settle (d : Disk) (p : Path) : Except DiskFault Disk → Disk × Except DiskFault Unit
    | .ok d => (d, .ok ())
    | .error fault => if d.isDirectory p then (d, .ok ()) else (d, .error fault)

/-- Sets the contents of a file, which need not exist yet; its directory must. -/
def write (d : Disk) (p : Path) (contents : Bytes) : Except DiskFault Disk :=
  match d.locate p with
  | .ok place =>
    match d.tree.get? place with
    | some (.file _) => .ok { d with tree := d.tree.put place (.file contents) }
    | _ => .error .isDirectory
  | .error .notFound =>
    if p.text.toList.getLast? = some '/' then .error .isDirectory
    else do return { d with tree := d.tree.put (← d.newPlace p) (.file contents) }
  | .error fault => .error fault

/-- Makes the directories around a file, unless the medium refuses that. The path named with a
fault is that of the file's directory. -/
def makeAround (d : Disk) (p : Path) (refusal : Option Refusal) :
    Disk × Except (Path × DiskFault) Unit :=
  match p.parent? with
  | none => (d, .ok ())
  | some parent =>
    match refusal with
    | some (.directory more fault) =>
      ((d.makeDirectories (parent.ancestors.drop (more + 1))).1, .error (parent, fault))
    | _ =>
      match d.makeDirectories parent.ancestors with
      | (d, .ok _) => (d, .ok ())
      | (d, .error fault) => (d, .error (parent, fault))

/-- Sets the contents of a file, unless the medium refuses that. What is left of contents that are
not written as a whole is shorter than they are. -/
def setContents (d : Disk) (p : Path) (contents : Bytes) (refusal : Option Refusal) :
    Disk × Except DiskFault Unit :=
  match refusal with
  | none =>
    match d.write p contents with
    | .ok d => (d, .ok ())
    | .error fault => (d, .error fault)
  | some (.contents kept fault) =>
    match d.write p (contents.dropLast.take kept) with
    | .ok d => (d, .error fault)
    | .error fault => (d, .error fault)
  | some (.opening fault) => (d, .error fault)
  | some (.directory _ fault) => (d, .error fault)

/-- Writes a file and makes the directories around it. The path named with a fault is that of the
file, or that of its directory if that cannot be made. -/
def writeFile (d : Disk) (p : Path) (contents : Bytes) :
    Disk × Except (Path × DiskFault) Unit :=
  let refusal := d.refusals.head?.join
  match ({ d with refusals := d.refusals.tail } : Disk).makeAround p refusal with
  | (d, .error e) => (d, .error e)
  | (d, .ok _) =>
    match d.setContents p contents refusal with
    | (d, .ok _) => (d, .ok ())
    | (d, .error fault) => (d, .error (p, fault))

/-- Removes a directory with all it holds. The contents go first; a path that ends in a dot does
not name the directory for removal. -/
def removeDirectory (d : Disk) (p : Path) : Disk × Except DiskFault Unit :=
  match d.locate p with
  | .error fault => (d, .error fault)
  | .ok place =>
    match d.tree.get? place with
    | some .directory =>
      match p.pieces.reverse.find? (· ≠ "") with
      | some "." => ({ d with tree := d.tree.eraseBelow place }, .error .invalidArgument)
      | some ".." => ({ d with tree := d.tree.eraseBelow place }, .error .notEmpty)
      | _ => ({ d with tree := d.tree.eraseAt place }, .ok ())
    | _ => (d, .error .notDirectory)

/-- Removes a file, or a directory with all it holds. -/
def remove (d : Disk) (p : Path) : Disk :=
  match d.locate p with
  | .ok place => { d with tree := d.tree.eraseAt place }
  | .error _ => d

/-- The files below a directory, spelled from the path of the directory. -/
def filesBelow (d : Disk) (p : Path) : List (Path × Bytes) :=
  match d.locate p with
  | .error _ => []
  | .ok place =>
    (d.tree.below place).filterMap fun (names, entry) =>
      match entry with
      | .file contents => some (names.foldl (fun q name => q.join ⟨name⟩) p, contents)
      | .directory => none

end Disk

end Lexgen
