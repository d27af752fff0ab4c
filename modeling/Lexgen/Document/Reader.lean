import Lexgen.Document.Basic
import Lexgen.Json.Skip

namespace Lexgen.Document

open Lexgen.Json
open Lexgen.Text

/-- A field's value. A scalar is read before its kind is judged, a bracket is not. -/
def fieldValue (depth : Nat) (d : Draft) (field : Field) : Scan Draft := do
  match ← Scan.opening with
  | .object =>
    if field = .defs then do
      Scan.enter depth
      return { d with defs := some (← Scan.members (depth - 1)) }
    else judge (d.setScalar field (.object []))
  | .array => judge (d.setScalar field (.array []))
  | .scalar value => judge (d.setScalar field value)
where
  judge (result : Except Fault Draft) : Scan Draft :=
    match result with
    | .ok d => pure d
    | .error fault => Scan.fail fault

/-- Closes an object of which a member was refused: only a bracket that follows at once is
read. -/
def closeObject : Scan Unit := do
  match ← Scan.peekToken? with
  | some 125 => Scan.skip
  | _ => pure ()

/-- The members of a document's object, with at most `fuel` members. -/
def membersFrom (depth : Nat) : Nat → Bool → Draft → Scan Draft
  | 0, _, _ => Scan.fail .recursionLimit
  | fuel + 1, first, d => do
    match ← Scan.nextKey? first with
    | none => do
      Scan.skip
      pure d
    | some key =>
      match Field.ofName? key with
      | some field =>
        if d.has field then do
          closeObject
          Scan.fail (.duplicateField key)
        else do
          Scan.colon
          let d ← fieldValue depth d field
          membersFrom depth fuel false d
      | none => do
        Scan.colon
        Scan.skipValue
        membersFrom depth fuel false d

/-- Closes the array of a document's fields. -/
def closeArray : Scan Unit := do
  match ← Scan.peekToken? with
  | some 93 => Scan.skip
  | some 44 => do
    Scan.skip
    match ← Scan.peekToken? with
    | some 93 => Scan.failAtNext .trailingComma
    | _ => Scan.failAtNext .trailingCharacters
  | some _ => Scan.failAtNext .trailingCharacters
  | none => Scan.failAtNext .endInList

/-- The elements of a document's array. -/
def itemsFrom (depth : Nat) (d : Draft) (count : Nat) : List Field → Scan Draft
  | [] => do
    closeArray
    pure d
  | field :: fields => do
    if ← Scan.moreItems (count == 0) then do
      let d ← fieldValue depth d field
      itemsFrom depth d (count + 1) fields
    else do
      closeArray
      if field = .defs then pure d else Scan.fail (.tooFewElements count)

/-- A document, its identifier not yet checked. -/
def scan : Scan Document := do
  let d ← match ← Scan.opening with
    | .object => do
      Scan.enter recursionLimit
      fun rest => membersFrom (recursionLimit - 1) (rest.length + 1) true {} rest
    | .array => do
      Scan.enter recursionLimit
      itemsFrom (recursionLimit - 1) {} 0 [.lexicon, .id, .revision, .description, .defs]
    | .scalar value => Scan.fail (.wrongKind (.of value) .document)
  match d.finish with
  | .ok d => pure d
  | .error fault => Scan.fail fault

/-- Reads a document from its text. -/
def parse (bytes : Bytes) : Except Problem Document :=
  match Scan.run scan bytes with
  | .ok d => d.checkId
  | .error e => .error (.json e)

end Lexgen.Document
