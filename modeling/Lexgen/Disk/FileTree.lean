import Lexgen.Text.Utf8

namespace Lexgen

open Lexgen.Text

/-- The names on the way from the root. -/
abbrev Place := List String

inductive Entry where
  | directory
  | file (contents : Bytes)
  deriving DecidableEq, Repr

/-- The entries below the root, one a place. The root is always a directory. -/
structure FileTree where
  entries : List (Place × Entry)
  deriving DecidableEq, Repr

namespace FileTree

def empty : FileTree := ⟨[]⟩

def lookup (place : Place) : List (Place × Entry) → Option Entry
  | [] => none
  | (p, e) :: rest => if p = place then some e else lookup place rest

def update (place : Place) (entry : Entry) : List (Place × Entry) → List (Place × Entry)
  | [] => [(place, entry)]
  | (p, e) :: rest =>
    if p = place then (place, entry) :: rest else (p, e) :: update place entry rest

/-- What stands at a place. -/
def get? (t : FileTree) (place : Place) : Option Entry :=
  if place = [] then some .directory else lookup place t.entries

/-- The tree with an entry set at a place other than the root. -/
def put (t : FileTree) (place : Place) (entry : Entry) : FileTree :=
  ⟨update place entry t.entries⟩

/-- The names that lead from `base` to `place`, if it lies below. -/
def namesBelow? : Place → Place → Option (List String)
  | [], place => if place = [] then none else some place
  | _ :: _, [] => none
  | a :: base, b :: place => if a = b then namesBelow? base place else none

/-- The tree without the entries below a place. -/
def eraseBelow (t : FileTree) (place : Place) : FileTree :=
  ⟨t.entries.filter fun (p, _) => (namesBelow? place p).isNone⟩

/-- The tree without the entry at a place and those below it. -/
def eraseAt (t : FileTree) (place : Place) : FileTree :=
  ⟨(t.eraseBelow place).entries.filter fun (p, _) => p != place⟩

/-- The entries below a place, with the names that lead to them. -/
def below (t : FileTree) (place : Place) : List (List String × Entry) :=
  t.entries.filterMap fun (p, e) => (namesBelow? place p).map (·, e)

/-- The entries just below a place. -/
def children (t : FileTree) (place : Place) : List (String × Entry) :=
  (t.below place).filterMap fun (names, e) =>
    match names with
    | [name] => some (name, e)
    | _ => none

end FileTree

end Lexgen
