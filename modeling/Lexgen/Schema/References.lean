import Lexgen.Names
import Lexgen.Schema.Storage

namespace Lexgen.Schema

/-- A list in ascending order without repetitions, with an element more. -/
def insertSorted (s : String) : List String → List String
  | [] => [s]
  | t :: rest =>
    if s < t then s :: t :: rest
    else if s = t then t :: rest
    else t :: insertSorted s rest

/-- The elements of a list in ascending order without repetitions. -/
def sortedSet (values : List String) : List String :=
  values.foldl (fun set s => insertSorted s set) []

/-- The texts of the references that a node makes itself. -/
def ownReferences (node : Json) : List String :=
  match Kind.of? node with
  | some .ref => (node.getString? "ref").toList
  | some .union => (((node.get? "refs").bind Json.items?).getD []).filterMap Json.string?
  | _ => []

/-- The texts of the references in a node, with at most `levels` levels of values looked at. -/
def referencesWithin : Nat → Json → List String
  | 0, _ => []
  | levels + 1, .object members =>
    ownReferences (.object members) ++
      members.flatMap fun (_, value) => referencesWithin levels value
  | levels + 1, .array items => items.flatMap (referencesWithin levels)
  | _ + 1, _ => []

/-- The references in a node of the document `nsid`, qualified. -/
def references (nsid : String) (node : Json) : List String :=
  (referencesWithin (maxDepth + 1) node).map fun text => (Reference.parse nsid text).qualified

end Lexgen.Schema
