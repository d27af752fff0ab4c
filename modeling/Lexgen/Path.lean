import Lexgen.Text.Split

namespace Lexgen

open Lexgen.Text

/-- A path keeps the text it was given; its components decide which paths are equal and how paths
are ordered. -/
structure Path where
  text : String
  deriving DecidableEq, Repr

namespace Path

/-- A step of a path. A dot is a step only at the start of a relative path. -/
inductive Component where
  | root
  | here
  | up
  | name (text : String)
  deriving DecidableEq, Repr

def isAbsolute (p : Path) : Bool := p.text.toList.head? == some '/'

/-- The pieces of the text between slashes. -/
def pieces (p : Path) : List String := segments '/' p.text

/-- The step that a piece after the first stands for; empty pieces and dots stand for none. -/
def innerComponent? (piece : String) : Option Component :=
  if piece = "" ∨ piece = "." then none
  else if piece = ".." then some .up
  else some (.name piece)

def components (p : Path) : List Component :=
  match p.pieces with
  | [] => []
  | first :: rest =>
    let inner := rest.filterMap innerComponent?
    if p.isAbsolute then .root :: inner
    else if first = "." then .here :: inner
    else (innerComponent? first).toList ++ inner

/-- Whether two paths have the same components. -/
def same (p q : Path) : Bool := p.components == q.components

/-- The place of a component's kind in the order of paths. -/
def Component.rank : Component → Nat
  | .root => 0
  | .here => 1
  | .up => 2
  | .name _ => 3

/-- The order of components: the root, a dot, two dots, then names by their characters. -/
def Component.le : Component → Component → Bool
  | .name a, .name b => a ≤ b
  | a, b => a.rank ≤ b.rank

/-- The order of lists of components, by the first difference. -/
def componentsLe : List Component → List Component → Bool
  | [], _ => true
  | _ :: _, [] => false
  | a :: as, b :: bs => if a = b then componentsLe as bs else a.le b

def le (p q : Path) : Bool := componentsLe p.components q.components

/-- The path `q` seen from `p`; an absolute `q` stands for itself. -/
def join (p q : Path) : Path :=
  if q.isAbsolute then q
  else if p.text = "" ∨ p.text.toList.getLast? = some '/' then ⟨p.text ++ q.text⟩
  else ⟨p.text ++ "/" ++ q.text⟩

/-- The path through the given names in turn. -/
def ofNames (names : List String) : Path :=
  names.foldl (fun p name => p.join ⟨name⟩) ⟨""⟩

/-- Pieces in reverse without those at the end that are no component. The last piece of the list is
the first of the path. -/
def dropIdle : List String → List String
  | [] => []
  | [first] => [first]
  | piece :: rest => if (innerComponent? piece).isNone then dropIdle rest else piece :: rest

/-- The path without its last component; nothing if it has none or is the root. -/
def parent? (p : Path) : Option Path :=
  match dropIdle p.pieces.reverse with
  | [] => none
  | [first] => if first = "" then none else some ⟨""⟩
  | _ :: rest =>
    match dropIdle rest with
    | [""] => some ⟨"/"⟩
    | rest => some ⟨"/".intercalate rest.reverse⟩

/-- The path itself, its parent, that one's parent and so on, at most `fuel` of them. -/
def ancestorsUpTo : Nat → Path → List Path
  | 0, _ => []
  | fuel + 1, p =>
    p :: match p.parent? with
      | some q => ancestorsUpTo fuel q
      | none => []

/-- The path itself, its parent, that one's parent and so on. -/
def ancestors (p : Path) : List Path := ancestorsUpTo (p.text.length + 1) p

/-- The last component, if it is a name. -/
def fileName? (p : Path) : Option String :=
  match p.components.getLast? with
  | some (.name name) => some name
  | _ => none

/-- What follows the last dot of a file name. A dot at the start of a name begins no extension. -/
def nameExtension? (name : String) : Option String :=
  match cutLast '.' name.toList with
  | some (before, after) => if before.isEmpty then none else some (String.ofList after)
  | none => none

end Path

end Lexgen
