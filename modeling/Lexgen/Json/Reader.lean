import Lexgen.Json.Scan

namespace Lexgen.Json

open Lexgen.Text

/-- The number of brackets that may not be open at the same time. -/
def recursionLimit : Nat := 128

/-- The beginning of a value: a scalar is read as a whole, of an array or an object nothing. -/
inductive Opening where
  | scalar (value : Json)
  | array
  | object

namespace Scan

/-- Skips white space and reads the beginning of a value. -/
def opening : Scan Opening := do
  match ← peekToken? with
  | none => failAtNext .endInValue
  | some b =>
    if b = 110 then do skip; literal [117, 108, 108]; pure (.scalar .null)
    else if b = 116 then do skip; literal [114, 117, 101]; pure (.scalar (.bool true))
    else if b = 102 then do skip; literal [97, 108, 115, 101]; pure (.scalar (.bool false))
    else if b = 45 then do skip; return .scalar (.number (← unsignedNumber true))
    else if isDigit b then return .scalar (.number (← unsignedNumber false))
    else if b = 34 then do skip; return .scalar (.string (← stringRest))
    else if b = 91 then pure .array
    else if b = 123 then pure .object
    else failAtNext .expectedValue

/-- Enters a bracket, given the number of brackets that may still be opened. -/
def enter (depth : Nat) : Scan Unit :=
  if depth ≤ 1 then failAtNext .recursionLimit else skip

/-- Whether an array goes on; if it does not, its bracket is the next byte. -/
def moreItems (first : Bool) : Scan Bool := do
  match ← peekToken? with
  | none => failAtNext .endInList
  | some b =>
    if b = 93 then pure false
    else if first then pure true
    else if b = 44 then do
      skip
      match ← peekToken? with
      | some 93 => failAtNext .trailingComma
      | some _ => pure true
      | none => failAtNext .endInValue
    else failAtNext .expectedListSeparator

/-- The key of the next member of an object; if there is none, the bracket is the next byte. -/
def nextKey? (first : Bool) : Scan (Option String) := do
  match ← peekToken? with
  | none => failAtNext .endInObject
  | some b =>
    if b = 125 then pure none
    else if first then
      if b = 34 then do skip; return some (← stringRest) else failAtNext .keyNotString
    else if b = 44 then do
      skip
      match ← peekToken? with
      | some 34 => do skip; return some (← stringRest)
      | some 125 => failAtNext .trailingComma
      | some _ => failAtNext .keyNotString
      | none => failAtNext .endInValue
    else failAtNext .expectedObjectSeparator

/-- The colon between a key and its value. -/
def colon : Scan Unit := do
  match ← peekToken? with
  | some 58 => skip
  | some _ => failAtNext .expectedColon
  | none => failAtNext .endInObject

mutual

/-- A value, given the number of brackets that may still be opened. Each call reads a byte or is
the only one to do so between two bytes, so twice the number of bytes is enough fuel. -/
def valueWith (fuel depth : Nat) : Scan Json := do
  match fuel with
  | 0 => fail .recursionLimit
  | fuel + 1 =>
    match ← opening with
    | .scalar value => pure value
    | .array => do
      enter depth
      let items ← itemsWith fuel (depth - 1) true
      pure (.array items)
    | .object => do
      enter depth
      let members ← membersWith fuel (depth - 1) true []
      pure (.object members)

/-- The items up to the closing bracket, which is read. -/
def itemsWith (fuel depth : Nat) (first : Bool) : Scan (List Json) := do
  match fuel with
  | 0 => fail .recursionLimit
  | fuel + 1 =>
    if ← moreItems first then do
      let item ← valueWith fuel depth
      let rest ← itemsWith fuel depth false
      pure (item :: rest)
    else do
      skip
      pure []

/-- The members up to the closing bracket, which is read. Of several members with one key the
last counts. -/
def membersWith (fuel depth : Nat) (first : Bool) (members : List (String × Json)) :
    Scan (List (String × Json)) := do
  match fuel with
  | 0 => fail .recursionLimit
  | fuel + 1 =>
    match ← nextKey? first with
    | some key => do
      colon
      let value ← valueWith fuel depth
      membersWith fuel depth false (setMember key value members)
    | none => do
      skip
      pure members

end

/-- A value, given the number of brackets that may still be opened. -/
def value (depth : Nat) : Scan Json :=
  fun rest => valueWith (2 * rest.length + 2) depth rest

/-- The members of an object after its bracket. -/
def members (depth : Nat) : Scan (List (String × Json)) :=
  fun rest => membersWith (2 * rest.length + 2) depth true [] rest

/-- Nothing but white space may be left. -/
def finish : Scan Unit := do
  match ← peekToken? with
  | some _ => failAtNext .trailingCharacters
  | none => pure ()

end Scan

/-- The place of a failure in the text it was found in. -/
def Failure.toError (bytes : Bytes) (f : Failure) : Error :=
  let place := Position.after bytes (bytes.length - f.left)
  ⟨f.fault, some ⟨place.line, place.column - f.back⟩⟩

/-- Runs a step on a whole text. -/
def Scan.run {α : Type} (step : Scan α) (bytes : Bytes) : Except Error α :=
  match (do let result ← step; Scan.finish; pure result : Scan α) bytes with
  | .ok (result, _) => .ok result
  | .error failure => .error (failure.toError bytes)

/-- Reads a JSON text. -/
def parse (bytes : Bytes) : Except Error Json :=
  Scan.run (Scan.value recursionLimit) bytes

end Lexgen.Json
