import Lexgen.Names
import Lexgen.Schema.Storage

namespace Lexgen.Schema

/-- What a field is to the code that uses it. -/
inductive NativeType where
  | text
  | timestamp
  | null
  | integer
  | boolean
  | bytes
  | map
  /-- Anything: unions, unknown values and nodes that make no sense. -/
  | any
  | list (element : NativeType)
  /-- The type of another definition, by its module. -/
  | ref (moduleName : String)
  /-- An object written in place, with its properties in order of their names. -/
  | record (fields : List (String × NativeType))
  deriving Repr

namespace NativeType

/-- The native type of a node in the document `nsid`, with at most `levels` levels of arrays and
objects looked at. -/
def within (nsid : String) : Nat → Json → NativeType
  | 0, _ => .any
  | levels + 1, node =>
    match Kind.of? node with
    | some .ref =>
      match node.getString? "ref" with
      | some reference => .ref (Reference.parse nsid reference).moduleName
      | none => .any
    | some .string => if isDatetime node then .timestamp else .text
    | some .cidLink => .text
    | some .null => .null
    | some .integer => .integer
    | some .boolean => .boolean
    | some .bytes => .bytes
    | some .blob => .map
    | some .array =>
      match node.get? "items" with
      | some items => .list (within nsid levels items)
      | none => .list .any
    | some .object =>
      .record (((properties? node).getD []).map fun (name, property) =>
        (name, within nsid levels property))
    | _ => .any

/-- The native type of a node in the document `nsid`. -/
def ofNode (nsid : String) (node : Json) : NativeType := within nsid (maxDepth + 1) node

end NativeType

end Lexgen.Schema
