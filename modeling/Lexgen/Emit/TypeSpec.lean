import Lexgen.Emit.Literal
import Lexgen.Schema.Native

namespace Lexgen.Schema

open Lexgen.Emit

/-- The type of a column. -/
def StorageType.columnType : StorageType → String
  | .text => ":string"
  | .timestamp => ":utc_datetime_usec"
  | .null => ":any"
  | .integer => ":integer"
  | .boolean => ":boolean"
  | .bytes => ":binary"
  | .structured => ":map"
  | .array element => "\x7b:array, " ++ element.columnType ++ "\x7d"

namespace NativeType

mutual

/-- The type specification. -/
def typeSpec : NativeType → String
  | .text => "String.t()"
  | .timestamp => "DateTime.t()"
  | .null => "nil"
  | .integer => "integer()"
  | .boolean => "boolean()"
  | .bytes => "binary()"
  | .map => "map()"
  | .any => "any()"
  | .list element => "list(" ++ element.typeSpec ++ ")"
  | .ref moduleName => moduleName ++ ".t()"
  | .record [] => "map()"
  | .record (field :: fields) => mapOf (fieldSpecs (field :: fields))

def fieldSpecs : List (String × NativeType) → List String
  | [] => []
  | (name, type) :: rest => (keywordKey name ++ " " ++ type.typeSpec) :: fieldSpecs rest

end

end NativeType

end Lexgen.Schema
