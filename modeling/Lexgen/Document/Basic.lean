import Lexgen.Json.Fault
import Lexgen.Nsid

namespace Lexgen

/-- A lexicon document before compilation: its definitions are still JSON. -/
structure Document where
  lexicon : Option Nat := none
  id : String
  revision : Option Nat := none
  description : Option String := none
  /-- The definitions in ascending order of their keys. -/
  defs : List (String × Json) := []
  deriving Repr

namespace Document

/-- Why something is no lexicon document. -/
inductive Problem where
  | json (error : Json.Error)
  | emptyId
  | invalidId (error : Nsid.Error)
  deriving DecidableEq, Repr

def Problem.message : Problem → String
  | .json error => error.message
  | .emptyId => "`id` is empty"
  | .invalidId error => error.message

/-- The place of a problem in the text of the document. -/
def Problem.position? : Problem → Option Json.Position
  | .json error => error.position
  | _ => none

/-- Requires the identifier to be an NSID, since it becomes a path and a module name. -/
def checkId (d : Document) : Except Problem Document :=
  if d.id = "" then .error .emptyId
  else
    match Nsid.validate d.id with
    | .ok _ => .ok d
    | .error e => .error (.invalidId e)

/-- The fields of a document in the order in which an array lists them. -/
inductive Field where
  | lexicon
  | id
  | revision
  | description
  | defs
  deriving DecidableEq, Repr

def Field.name : Field → String
  | .lexicon => "lexicon"
  | .id => "id"
  | .revision => "revision"
  | .description => "description"
  | .defs => "defs"

def Field.ofName? (name : String) : Option Field :=
  [Field.lexicon, .id, .revision, .description, .defs].find? (·.name = name)

/-- The fields read so far; a field that may be null is read when it is `some none`. -/
structure Draft where
  lexicon : Option (Option Nat) := none
  id : Option String := none
  revision : Option (Option Nat) := none
  description : Option (Option String) := none
  defs : Option (List (String × Json)) := none

/-- Whether a field was read. -/
def Draft.has (d : Draft) : Field → Bool
  | .lexicon => d.lexicon.isSome
  | .id => d.id.isSome
  | .revision => d.revision.isSome
  | .description => d.description.isSome
  | .defs => d.defs.isSome

/-- The document of all the fields read; only the identifier has to be there. -/
def Draft.finish (d : Draft) : Except Json.Fault Document :=
  match d.id with
  | none => .error (.missingField Field.id.name)
  | some id =>
    .ok {
      lexicon := d.lexicon.getD none
      id
      revision := d.revision.getD none
      description := d.description.getD none
      defs := d.defs.getD [] }

/-- A 32-bit word or null. -/
def optionalWord : Json → Except Json.Fault (Option Nat)
  | .null => .ok none
  | .number (.integer n) =>
    if 0 ≤ n ∧ n < Word.size32 then .ok (some n.toNat) else .error (.wrongValue n)
  | other => .error (.wrongKind (.of other) .word32)

def requiredString : Json → Except Json.Fault String
  | .string s => .ok s
  | other => .error (.wrongKind (.of other) .string)

/-- A string or null. -/
def optionalString : Json → Except Json.Fault (Option String)
  | .null => .ok none
  | .string s => .ok (some s)
  | other => .error (.wrongKind (.of other) .string)

/-- The draft with a field other than the definitions set to a scalar. An array or an object is as
wrong for such a field as a scalar is for the definitions. -/
def Draft.setScalar (d : Draft) (field : Field) (value : Json) : Except Json.Fault Draft :=
  match field with
  | .lexicon => return { d with lexicon := some (← optionalWord value) }
  | .id => return { d with id := some (← requiredString value) }
  | .revision => return { d with revision := some (← optionalWord value) }
  | .description => return { d with description := some (← optionalString value) }
  | .defs => .error (.wrongKind (.of value) .map)

/-- The draft with a field set to a value. -/
def Draft.set (d : Draft) : Field → Json → Except Json.Fault Draft
  | .defs, .object members => .ok { d with defs := some members }
  | field, value => d.setScalar field value

/-- Sets the fields that an object names, in its order, and passes over other members. -/
def draftOfMembers : Draft → List (String × Json) → Except Json.Fault Draft
  | d, [] => .ok d
  | d, (key, value) :: rest =>
    match Field.ofName? key with
    | some field => do draftOfMembers (← d.set field value) rest
    | none => draftOfMembers d rest

/-- Sets the fields in the order of an array. The definitions may be missing, and nothing may
follow them. -/
def draftOfItems (d : Draft) (count : Nat) : List Field → List Json → Except Json.Fault Draft
  | [], [] => .ok d
  | [], _ :: rest => .error (.tooManyElements (count + 1 + rest.length))
  | [.defs], [] => .ok d
  | _ :: _, [] => .error (.tooFewElements count)
  | field :: fields, item :: items => do
    draftOfItems (← d.set field item) (count + 1) fields items

/-- A document from a JSON value, its identifier not yet checked. -/
def read : Json → Except Json.Fault Document
  | .object members => do (← draftOfMembers {} members).finish
  | .array items => do
    (← draftOfItems {} 0 [.lexicon, .id, .revision, .description, .defs] items).finish
  | other => .error (.wrongKind (.of other) .document)

/-- Reads a document from a JSON value. -/
def ofJson (value : Json) : Except Problem Document :=
  match read value with
  | .ok d => d.checkId
  | .error fault => .error (.json ⟨fault, none⟩)

/-- The document as a JSON value. -/
def toJson (d : Document) : Json :=
  Json.ofFields [
    ("lexicon", d.lexicon.map Json.ofNat),
    ("id", some (.string d.id)),
    ("revision", d.revision.map Json.ofNat),
    ("description", d.description.map .string),
    ("defs", some (.object d.defs))]

end Document

end Lexgen
