import Lexgen.Schema.Kind

namespace Lexgen.Schema

/-- A constraint of a field. The kind of a node decides which constraints it can carry. -/
inductive Constraint where
  | default
  | const
  | minimum
  | maximum
  | enum
  | format
  | minLength
  | maxLength
  | minGraphemes
  | maxGraphemes
  | knownValues
  | items
  | accept
  | maxSize
  | refs
  | closed
  deriving DecidableEq, Repr

namespace Constraint

/-- The constraints in the order in which a set holds them. -/
def all : List Constraint :=
  [.default, .const, .minimum, .maximum, .enum, .format, .minLength, .maxLength, .minGraphemes,
    .maxGraphemes, .knownValues, .items, .accept, .maxSize, .refs, .closed]

/-- The member of a node that holds the constraint. -/
def key : Constraint → String
  | .default => "default"
  | .const => "const"
  | .minimum => "minimum"
  | .maximum => "maximum"
  | .enum => "enum"
  | .format => "format"
  | .minLength => "minLength"
  | .maxLength => "maxLength"
  | .minGraphemes => "minGraphemes"
  | .maxGraphemes => "maxGraphemes"
  | .knownValues => "knownValues"
  | .items => "items"
  | .accept => "accept"
  | .maxSize => "maxSize"
  | .refs => "refs"
  | .closed => "closed"

/-- The name of the constraint, each word of it with a capital. -/
def title : Constraint → String
  | .default => "Default"
  | .const => "Const"
  | .minimum => "Minimum"
  | .maximum => "Maximum"
  | .enum => "Enum"
  | .format => "Format"
  | .minLength => "MinLength"
  | .maxLength => "MaxLength"
  | .minGraphemes => "MinGraphemes"
  | .maxGraphemes => "MaxGraphemes"
  | .knownValues => "KnownValues"
  | .items => "Items"
  | .accept => "Accept"
  | .maxSize => "MaxSize"
  | .refs => "Refs"
  | .closed => "Closed"

/-- The name under which a set shows the constraint: its title in camel case. -/
def label (c : Constraint) : String :=
  match c.title.toList with
  | [] => ""
  | first :: rest => String.ofList (first.toLower :: rest)

/-- The constraints that a node of a kind can carry. -/
def applicable : Kind → List Constraint
  | .boolean => [.default, .const]
  | .integer => [.minimum, .maximum, .enum, .default, .const]
  | .string =>
    [.format, .minLength, .maxLength, .minGraphemes, .maxGraphemes, .knownValues, .enum, .default,
      .const]
  | .bytes => [.minLength, .maxLength]
  | .array => [.minLength, .maxLength, .items]
  | .blob => [.accept, .maxSize]
  | .union => [.refs, .closed]
  | _ => []

/-- The value that a node gives a constraint; null gives none. -/
def value? (node : Json) (c : Constraint) : Option Json :=
  match node.get? c.key with
  | none => none
  | some .null => none
  | some value => some value

end Constraint

/-- A set of constraints with their values, in the order of `Constraint.all`. -/
structure Constraints where
  entries : List (Constraint × Json) := []
  deriving Repr

namespace Constraints

/-- The constraints of a node that apply to its kind. -/
def ofNode (node : Json) : Constraints :=
  match Kind.of? node with
  | none => {}
  | some kind =>
    ⟨Constraint.all.filterMap fun c =>
      if c ∈ Constraint.applicable kind then (c.value? node).map (c, ·) else none⟩

def get? (cs : Constraints) (c : Constraint) : Option Json :=
  (cs.entries.find? (·.1 = c)).map Prod.snd

/-- The value of a constraint that is an integer of 64 bits. -/
def bound? (cs : Constraints) (c : Constraint) : Option Int :=
  (cs.get? c).bind Json.int64?

def isEmpty (cs : Constraints) : Bool := cs.entries.isEmpty

def size (cs : Constraints) : Nat := cs.entries.length

def toJson (cs : Constraints) : Json :=
  .object (cs.entries.map fun (c, value) => (c.label, value))

end Constraints

end Lexgen.Schema
