import Lexgen.Schema.Field

namespace Lexgen

open Lexgen.Schema

/-- A plain shape of data. -/
structure StructDef where
  key : String
  fields : List Field
  description : Option String
  deriving Repr

/-- How the records of a table are keyed. -/
inductive PrimaryKey where
  | sequentialInteger
  /-- By a TID. -/
  | sortableId
  deriving DecidableEq, Repr

def PrimaryKey.ofStyle (style : Option String) : PrimaryKey :=
  if style = some "tid" then .sortableId else .sequentialInteger

/-- A record that is kept in a table. -/
structure RecordDef where
  key : String
  primaryKey : PrimaryKey
  fields : List Field
  description : Option String
  deriving Repr

inductive CallKind where
  | query
  | procedure
  deriving DecidableEq, Repr

/-- A call of a server. -/
structure CallDef where
  key : String
  nsid : String
  /-- The parameters of a query, or the properties of a body that is an object. -/
  inputFields : List Field
  /-- The type of any other body of a procedure. -/
  inputType : Option NativeType
  outputType : NativeType
  inputEncoding : Option String
  outputEncoding : Option String
  errors : List String
  description : Option String
  deriving Repr

inductive Definition where
  | struct (d : StructDef)
  | record (d : RecordDef)
  | call (kind : CallKind) (d : CallDef)
  deriving Repr

def CallKind.kind : CallKind → Kind
  | .query => .query
  | .procedure => .procedure

namespace Definition

def key : Definition → String
  | .struct d => d.key
  | .record d => d.key
  | .call _ d => d.key

/-- The kind of node that a definition comes from. -/
def kind : Definition → Kind
  | .struct _ => .object
  | .record _ => .record
  | .call callKind _ => callKind.kind

/-- The type of a body: that of its schema, else anything if it is JSON, else bytes. -/
def bodyType (nsid : String) (body : Json) : NativeType :=
  match body.get? "schema" with
  | some schema => NativeType.ofNode nsid schema
  | none =>
    match body.getString? "encoding" with
    | none => .any
    | some encoding => if encoding = "application/json" then .any else .bytes

/-- The names of the errors that a call lists. -/
def errorNames (node : Json) : List String :=
  (((node.get? "errors").bind Json.items?).getD []).filterMap (·.getString? "name")

/-- A call without input. -/
def callWithoutInput (nsid key : String) (node : Json) : CallDef :=
  let output := node.get? "output"
  { key
    nsid
    inputFields := []
    inputType := none
    outputType := (output.map (bodyType nsid)).getD .null
    inputEncoding := none
    outputEncoding := output.bind (·.getString? "encoding")
    errors := errorNames node
    description := description? node }

/-- The fields of a body that is an object. -/
def bodyFields (nsid : String) (body : Json) : List Field :=
  match body.get? "schema" with
  | some schema => if Kind.of? schema = some .object then Field.ofNode nsid schema else []
  | none => []

def ofQuery (nsid key : String) (node : Json) : CallDef :=
  { callWithoutInput nsid key node with
    inputFields := Field.ofNode nsid ((node.get? "parameters").getD .null) }

/-- A procedure. A body without fields is sent as a whole, so it has a type. -/
def ofProcedure (nsid key : String) (node : Json) : CallDef :=
  let call := callWithoutInput nsid key node
  match node.get? "input" with
  | none => call
  | some input =>
    let inputFields := bodyFields nsid input
    { call with
      inputFields
      inputType := if inputFields.isEmpty then some (bodyType nsid input) else none
      inputEncoding := input.getString? "encoding" }

def ofObject (nsid key : String) (node : Json) : StructDef where
  key := key
  fields := Field.ofNode nsid node
  description := description? node

def ofRecord (nsid key : String) (node : Json) : RecordDef :=
  let record := (node.get? "record").getD .null
  { key
    primaryKey := PrimaryKey.ofStyle (node.getString? "key")
    fields := Field.ofNode nsid record
    description := description? node <|> description? record }

/-- The definition `key` of the document `nsid`. No code is emitted for other kinds of nodes, and
the kind is the error. -/
def ofNode (nsid key : String) (node : Json) : Except (Option Kind) Definition :=
  match Kind.of? node with
  | some .object => .ok (.struct (ofObject nsid key node))
  | some .record => .ok (.record (ofRecord nsid key node))
  | some .query => .ok (.call .query (ofQuery nsid key node))
  | some .procedure => .ok (.call .procedure (ofProcedure nsid key node))
  | other => .error other

end Definition

/-- The definitions of a document: any number of structs, at most one record and one call, which
is in the place of its kind. -/
structure Definitions where
  structs : List StructDef := []
  record : Option RecordDef := none
  query : Option CallDef := none
  procedure : Option CallDef := none
  deriving Repr

namespace Definitions

/-- The call, whichever kind it is of. A query comes before a procedure. -/
def call (ds : Definitions) : Option (CallKind × CallDef) :=
  match ds.query, ds.procedure with
  | some d, _ => some (.query, d)
  | none, some d => some (.procedure, d)
  | none, none => none

/-- Puts a definition in its place. One whose place is taken is handed back; the place of a call is
taken by a call of either kind. -/
def offer (ds : Definitions) : Definition → Definitions × Option Definition
  | .struct d => ({ ds with structs := ds.structs ++ [d] }, none)
  | .record d =>
    if ds.record.isNone then ({ ds with record := some d }, none) else (ds, some (.record d))
  | .call .query d =>
    if ds.call.isNone then ({ ds with query := some d }, none) else (ds, some (.call .query d))
  | .call .procedure d =>
    if ds.call.isNone then ({ ds with procedure := some d }, none)
    else (ds, some (.call .procedure d))

/-- Adds a definition; the error is the definition that is handed back. -/
def insert (ds : Definitions) (d : Definition) : Except Definition Definitions :=
  match ds.offer d with
  | (ds, none) => .ok ds
  | (_, some rejected) => .error rejected

def size (ds : Definitions) : Nat :=
  ds.structs.length + ds.record.isSome.toNat + ds.call.isSome.toNat

def isEmpty (ds : Definitions) : Bool :=
  ds.structs.isEmpty && ds.record.isNone && ds.call.isNone

end Definitions

end Lexgen
