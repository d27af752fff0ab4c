import Lexgen.Emit.Field
import Lexgen.Emit.Lines

namespace Lexgen.Emit

structure StructModule where
  moduleName : String
  description : Option String
  fields : List FieldText
  deriving DecidableEq, Repr

structure StructFile where
  nsid : String
  modules : List StructModule
  deriving DecidableEq, Repr

namespace StructModule

/-- The fields that must be given. -/
def enforcedLine (m : StructModule) : List String :=
  let enforced := (m.fields.filter (·.required)).map (·.atom)
  if enforced.isEmpty then [] else ["  @enforce_keys " ++ listOf enforced]

/-- The fields with their default values. -/
def structLines (m : StructModule) : List String :=
  if m.fields.isEmpty then ["  defstruct []"]
  else
    ["  defstruct ["] ++
      withCommas (m.fields.map fun f => "    " ++ f.key ++ " " ++ f.default.getD "nil") ++
      ["  ]"]

/-- The fields with their types. -/
def typeLines (m : StructModule) : List String :=
  if m.fields.isEmpty then ["  @type t :: %__MODULE__\x7b\x7d"]
  else
    ["  @type t :: %__MODULE__\x7b"] ++
      withCommas (m.fields.map fun f => "          " ++ f.key ++ " " ++ f.typeSpec) ++
      ["        \x7d"]

def lines (m : StructModule) : List String :=
  ["defmodule " ++ m.moduleName ++ " do"] ++ moduleDoc m.description ++ m.enforcedLine ++
    m.structLines ++ [""] ++ m.typeLines ++ ["end"]

def toJson (m : StructModule) : Json :=
  Json.ofFields [
    ("module", some (.string m.moduleName)),
    ("description", m.description.map .string),
    ("fields", some (.array (m.fields.map FieldText.toJson)))]

end StructModule

namespace StructFile

def text (f : StructFile) : String :=
  unlines (header (some f.nsid) ++ [""].intercalate (f.modules.map StructModule.lines))

def toJson (f : StructFile) : Json :=
  .object [
    ("nsid", .string f.nsid),
    ("modules", .array (f.modules.map StructModule.toJson))]

end StructFile

end Lexgen.Emit
