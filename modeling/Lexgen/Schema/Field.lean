import Lexgen.Schema.Constraint
import Lexgen.Schema.Default
import Lexgen.Schema.Native

namespace Lexgen.Schema

structure Field where
  name : String
  native : NativeType
  storage : StorageType
  required : Bool
  constraints : Constraints
  default : Option Json
  description : Option String
  deriving Repr

namespace Field

/-- The field that a property of the document `nsid` describes. -/
def ofProperty (nsid : String) (required : List String) (name : String) (property : Json) :
    Field where
  name := name
  native := NativeType.ofNode nsid property
  storage := StorageType.ofNode property
  required := required.contains name
  constraints := Constraints.ofNode property
  default := defaultValue? property
  description := description? property

/-- The fields of an object-shaped node, in order of their names. A required name without a
property makes no field. -/
def ofNode (nsid : String) (node : Json) : List Field :=
  ((properties? node).getD []).map fun (name, property) =>
    ofProperty nsid (requiredNames node) name property

end Field

end Lexgen.Schema
