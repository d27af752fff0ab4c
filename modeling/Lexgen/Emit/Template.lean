import Lexgen.Emit.CallFile
import Lexgen.Emit.RecordFile
import Lexgen.Emit.StructFile
import Lexgen.Emit.SupportFile

namespace Lexgen.Emit

inductive Template where
  | structs
  | schema
  | call
  | tidSupport
  | requestSupport
  deriving DecidableEq, Repr

def Template.name : Template → String
  | .structs => "structs"
  | .schema => "schema"
  | .call => "xrpc"
  | .tidSupport => "common-tid"
  | .requestSupport => "common-xrpc"

/-- What a template is filled with. -/
inductive Bindings where
  | structs (file : StructFile)
  | schema (file : RecordFile)
  | call (file : CallFile)
  | support (file : SupportFile)
  deriving DecidableEq, Repr

/-- The filled template; nothing if the bindings belong to another. -/
def Template.fill? : Template → Bindings → Option String
  | .structs, .structs file => some file.text
  | .schema, .schema file => some file.text
  | .call, .call file => some file.text
  | .tidSupport, .support file => some file.tidText
  | .requestSupport, .support file => some file.requestText
  | _, _ => none

def Bindings.toJson : Bindings → Json
  | .structs file => file.toJson
  | .schema file => file.toJson
  | .call file => file.toJson
  | .support file => file.toJson

end Lexgen.Emit
