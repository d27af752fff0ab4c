import Lexgen.Schema.Kind

namespace Lexgen.Schema

/-- How many arrays and objects inside each other a node is looked into. -/
def maxDepth : Nat := 32

/-- How a field is kept in a table. -/
inductive StorageType where
  | text
  | timestamp
  | null
  | integer
  | boolean
  | bytes
  | structured
  | array (element : StorageType)
  deriving DecidableEq, Repr

/-- Whether a text holds a point in time. -/
def isDatetime (node : Json) : Bool := node.getString? "format" == some "datetime"

namespace StorageType

/-- The storage type of a node, with at most `levels` levels of arrays looked at. -/
def within : Nat → Json → StorageType
  | 0, _ => .structured
  | levels + 1, node =>
    match Kind.of? node with
    | some .string => if isDatetime node then .timestamp else .text
    | some .cidLink => .text
    | some .null => .null
    | some .integer => .integer
    | some .boolean => .boolean
    | some .bytes => .bytes
    | some .array =>
      match node.get? "items" with
      | some items => .array (within levels items)
      | none => .array .structured
    | _ => .structured

/-- The storage type of a node. Whatever has no type of its own is structured. -/
def ofNode (node : Json) : StorageType := within (maxDepth + 1) node

/-- Whether a field of the type has no column. -/
def isVirtual (t : StorageType) : Bool := t = .null

def element? : StorageType → Option StorageType
  | .array element => some element
  | _ => none

end StorageType

end Lexgen.Schema
