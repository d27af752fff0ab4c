import Lexgen.Definition.Basic
import Lexgen.Emit.TypeSpec

namespace Lexgen

open Lexgen.Schema

def Schema.NativeType.toJson (t : NativeType) : Json := .string t.typeSpec

def Schema.StorageType.toJson (t : StorageType) : Json := .string t.columnType

def Schema.Field.toJson (f : Field) : Json :=
  Json.ofFields [
    ("name", some (.string f.name)),
    ("native_type", some f.native.toJson),
    ("storage_type", some f.storage.toJson),
    ("required", some (.bool f.required)),
    ("constraints", some f.constraints.toJson),
    ("default", some (f.default.getD .null)),
    ("description", f.description.map .string)]

def fieldsJson (fields : List Field) : Json := .array (fields.map Field.toJson)

def StructDef.toJson (d : StructDef) : Json :=
  Json.ofFields [
    ("key", some (.string d.key)),
    ("fields", some (fieldsJson d.fields)),
    ("description", d.description.map .string)]

def PrimaryKey.name : PrimaryKey → String
  | .sequentialInteger => "sequential-integer"
  | .sortableId => "opaque-sortable-id"

def RecordDef.toJson (d : RecordDef) : Json :=
  Json.ofFields [
    ("key", some (.string d.key)),
    ("primary_key", some (.string d.primaryKey.name)),
    ("fields", some (fieldsJson d.fields)),
    ("description", d.description.map .string)]

def CallDef.toJson (d : CallDef) : Json :=
  Json.ofFields [
    ("key", some (.string d.key)),
    ("nsid", some (.string d.nsid)),
    ("input_fields", some (fieldsJson d.inputFields)),
    ("input_type", d.inputType.map NativeType.toJson),
    ("output_type", some d.outputType.toJson),
    ("input_encoding", d.inputEncoding.map .string),
    ("output_encoding", d.outputEncoding.map .string),
    ("errors", some (Json.strings d.errors)),
    ("description", d.description.map .string)]

def CallKind.name : CallKind → String
  | .query => "query"
  | .procedure => "procedure"

/-- What a definition is called among definitions. -/
def Definition.sort : Definition → String
  | .struct _ => "struct"
  | .record _ => "schema"
  | .call kind _ => kind.name

def Definition.toJson : Definition → Json
  | .struct d => d.toJson
  | .record d => d.toJson
  | .call _ d => d.toJson

def Definitions.toJson (ds : Definitions) : Json :=
  Json.ofFields [
    ("structs", some (.array (ds.structs.map StructDef.toJson))),
    ("schema", ds.record.map RecordDef.toJson),
    ("query", ds.query.map CallDef.toJson),
    ("procedure", ds.procedure.map CallDef.toJson)]

end Lexgen
