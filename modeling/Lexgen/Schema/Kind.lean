import Lexgen.Json.Basic

namespace Lexgen.Schema

/-- What a node describes. -/
inductive Kind where
  | ref
  | union
  | null
  | boolean
  | integer
  | string
  | unknown
  | bytes
  | cidLink
  | blob
  | array
  | object
  | token
  | record
  | query
  | procedure
  | subscription
  deriving DecidableEq, Repr

namespace Kind

def all : List Kind :=
  [.ref, .union, .null, .boolean, .integer, .string, .unknown, .bytes, .cidLink, .blob, .array,
    .object, .token, .record, .query, .procedure, .subscription]

/-- The kind as it is written in a node. -/
def tag : Kind → String
  | .ref => "ref"
  | .union => "union"
  | .null => "null"
  | .boolean => "boolean"
  | .integer => "integer"
  | .string => "string"
  | .unknown => "unknown"
  | .bytes => "bytes"
  | .cidLink => "cid-link"
  | .blob => "blob"
  | .array => "array"
  | .object => "object"
  | .token => "token"
  | .record => "record"
  | .query => "query"
  | .procedure => "procedure"
  | .subscription => "subscription"

def ofTag? (tag : String) : Option Kind :=
  all.find? (·.tag = tag)

/-- The kind of a node; nothing if it has no known one. -/
def of? (node : Json) : Option Kind :=
  (node.getString? "type").bind ofTag?

end Kind

/-- The properties of an object-shaped node, in ascending order of their names. -/
def properties? (node : Json) : Option (List (String × Json)) :=
  (node.get? "properties").bind Json.members?

/-- The names that a node requires. What is no string in the list is passed over. -/
def requiredNames (node : Json) : List String :=
  (((node.get? "required").bind Json.items?).getD []).filterMap Json.string?

/-- What a node says about itself. -/
def description? (node : Json) : Option String := node.getString? "description"

end Lexgen.Schema
