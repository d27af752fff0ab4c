import Lexgen.Emit.TypeSpec
import Lexgen.Schema.Field

namespace Lexgen.Emit

open Lexgen.Schema

structure FieldText where
  name : String
  atom : String
  key : String
  /-- The type specification; that of an optional field admits `nil`. -/
  typeSpec : String
  columnType : String
  isVirtual : Bool
  required : Bool
  /-- The term of the default value. -/
  default : Option String
  description : Option String
  deriving DecidableEq, Repr

/-- Whether a type admits `nil` by itself. -/
def admitsNil : NativeType → Bool
  | .null => true
  | .any => true
  | _ => false

def FieldText.ofField (f : Field) : FieldText where
  name := f.name
  atom := Emit.atom f.name
  key := keywordKey f.name
  typeSpec :=
    if f.required || admitsNil f.native then f.native.typeSpec
    else f.native.typeSpec ++ " | nil"
  columnType := f.storage.columnType
  isVirtual := f.storage.isVirtual
  required := f.required
  default := f.default.map literal
  description := f.description

def FieldText.toJson (t : FieldText) : Json :=
  Json.ofFields [
    ("name", some (.string t.name)),
    ("atom", some (.string t.atom)),
    ("key", some (.string t.key)),
    ("typespec", some (.string t.typeSpec)),
    ("storage", some (.string t.columnType)),
    ("is_virtual", some (.bool t.isVirtual)),
    ("required", some (.bool t.required)),
    ("default", t.default.map .string),
    ("description", t.description.map .string)]

end Lexgen.Emit
