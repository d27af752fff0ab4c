import Lexgen.Json.Printer
import Lexgen.Schema.Kind

namespace Lexgen.Schema

/-- The value a field starts with. A default in the node wins, as text if the field is a text;
otherwise integers start at zero, booleans at false and arrays empty. -/
def defaultValue? (node : Json) : Option Json :=
  let kind := Kind.of? node
  match node.get? "default" with
  | none => implied kind
  | some .null => implied kind
  | some (.string s) => some (.string s)
  | some explicit => if kind = some .string then some (.string explicit.compact) else some explicit
where
  implied : Option Kind → Option Json
    | some .integer => some (Json.ofInt 0)
    | some .boolean => some (.bool false)
    | some .array => some (.array [])
    | _ => none

end Lexgen.Schema
