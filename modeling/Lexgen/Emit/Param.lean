import Lexgen.Emit.TypeSpec
import Lexgen.Event
import Lexgen.Schema.Field

namespace Lexgen.Emit

open Lexgen.Schema
open Lexgen.Text

structure Param where
  atom : String
  key : String
  /-- The name of the field in a request. -/
  wireName : String
  required : Bool
  typeSpec : String
  deriving DecidableEq, Repr

namespace Param

/-- The parameter of a field under a name. -/
def named (f : Field) (name : String) : Param where
  atom := Emit.atom name
  key := keywordKey name
  wireName := f.name
  required := f.required
  typeSpec := f.native.typeSpec

/-- The parameter of a field on its own. -/
def ofField (f : Field) : Param := named f (snakeCase f.name)

/-- Whether a field's name is in snake case already. -/
def isSnake (f : Field) : Bool := snakeCase f.name = f.name

/-- The names for the parameters of fields, when the names `taken` belong to others. A field whose
name in snake case is taken keeps its own name. -/
def namesAvoiding (taken : List String) : List Field → List String × List Event
  | [] => ([], [])
  | f :: rest =>
    let snake := snakeCase f.name
    if isSnake f then
      let (names, events) := namesAvoiding taken rest
      (snake :: names, events)
    else if taken.contains snake then
      let (names, events) := namesAvoiding (f.name :: taken) rest
      (f.name :: names, .keptWireName f.name snake :: events)
    else
      let (names, events) := namesAvoiding (snake :: taken) rest
      (snake :: names, events)

/-- The parameters of fields. Names that are in snake case come first. -/
def ofFields (fields : List Field) : List Param × List Event :=
  let (names, events) := namesAvoiding ((fields.filter isSnake).map (·.name)) fields
  ((fields.zip names).map fun (f, name) => named f name, events)

/-- The entry of a parameter in the type of all parameters. -/
def entry (p : Param) : String :=
  (if p.required then "required" else "optional") ++ "(" ++ p.atom ++ ") => " ++ p.typeSpec

/-- The type of the map that holds the parameters. -/
def mapType (params : List Param) : String := mapOf (params.map entry)

def toJson (p : Param) : Json :=
  .object [
    ("atom", .string p.atom),
    ("key", .string p.key),
    ("wire_name", .string p.wireName),
    ("required", .bool p.required),
    ("typespec", .string p.typeSpec)]

end Param

end Lexgen.Emit
