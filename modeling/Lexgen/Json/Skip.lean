import Lexgen.Json.Reader

namespace Lexgen.Json.Scan

open Lexgen.Text

/-- Passes over the bytes of an exponent. -/
def skipExponent : Scan Unit := do
  skip
  match ← peek? with
  | some 43 | some 45 => skip
  | _ => pure ()
  match ← next? with
  | some b => if isDigit b then pure () else fail .invalidNumber
  | none => fail .invalidNumber
  let _ ← takeWhile isDigit

/-- Passes over the digits after a decimal point. -/
def skipFraction : Scan Unit := do
  skip
  let places ← takeWhile isDigit
  if places.isEmpty then failAtNext .invalidNumber
  else
    match ← peek? with
    | some 101 | some 69 => skipExponent
    | _ => pure ()

/-- Passes over a number after its sign. -/
def skipNumber : Scan Unit := do
  match ← next? with
  | none => fail .invalidNumber
  | some b =>
    if !isDigit b then fail .invalidNumber
    else do
      if b ≠ 48 then
        let _ ← takeWhile isDigit
      match ← peek? with
      | some 46 => skipFraction
      | some 101 | some 69 => skipExponent
      | some c => if isDigit c then failAtNext .invalidNumber else pure ()
      | none => pure ()

/-- Passes over an escape after its backslash. -/
def skipEscape : Scan Unit := do
  match ← next? with
  | none => fail .endInString
  | some b =>
    if b = 117 then
      let _ ← hexEscape
    else if (letterEscape? b).isSome then pure ()
    else fail .invalidEscape

/-- Passes over a string after its opening quote, with at most `fuel` escapes. -/
def skipStringWith : Nat → Scan Unit
  | 0 => fail .endInString
  | fuel + 1 => do
    let _ ← takeWhile isPlain
    match ← peek? with
    | none => fail .endInString
    | some 34 => skip
    | some 92 => do skip; skipEscape; skipStringWith fuel
    | some _ => fail .controlCharacter

def skipString : Scan Unit := fun rest => skipStringWith (rest.length + 1) rest

/-- A bracket that is open. -/
inductive Frame where
  | list
  | object
  deriving DecidableEq

/-- Passes over a scalar, or enters a bracket and names it. -/
def skipOpening : Scan (Option Frame) := do
  match ← peekToken? with
  | none => failAtNext .endInValue
  | some b =>
    if b = 110 then do skip; literal [117, 108, 108]; pure none
    else if b = 116 then do skip; literal [114, 117, 101]; pure none
    else if b = 102 then do skip; literal [97, 108, 115, 101]; pure none
    else if b = 45 then do skip; skipNumber; pure none
    else if isDigit b then do skipNumber; pure none
    else if b = 34 then do skip; skipString; pure none
    else if b = 91 then do skip; pure (some .list)
    else if b = 123 then do skip; pure (some .object)
    else failAtNext .expectedValue

/-- Closes brackets until a value is due, and shows the brackets that are then open. A comma
is accepted only behind a value. -/
def skipClosings (afterValue : Bool) : List Frame → Scan (List Frame)
  | [] => pure []
  | frame :: frames => do
    match ← peekToken? with
    | none => failAtNext (if frame = .list then .endInList else .endInObject)
    | some b =>
      if b = 44 && afterValue then do skip; pure (frame :: frames)
      else if b = (if frame = .list then 93 else 125) then do
        skip
        skipClosings true frames
      else if afterValue then
        failAtNext (if frame = .list then .expectedListSeparator else .expectedObjectSeparator)
      else pure (frame :: frames)

/-- Passes over a key and its colon. -/
def skipKey : Scan Unit := do
  match ← peekToken? with
  | some 34 => do skip; skipString; colon
  | some _ => failAtNext .keyNotString
  | none => failAtNext .endInObject

/-- Passes over values until no bracket is open, with at most `fuel` values. -/
def skipValueWith : Nat → List Frame → Scan Unit
  | 0, _ => fail .recursionLimit
  | fuel + 1, frames => do
    let due ← match ← skipOpening with
      | some frame => skipClosings false (frame :: frames)
      | none => skipClosings true frames
    match due with
    | [] => pure ()
    | .list :: _ => skipValueWith fuel due
    | .object :: _ => do skipKey; skipValueWith fuel due

/-- Passes over a value. -/
def skipValue : Scan Unit := fun rest => skipValueWith (rest.length + 1) [] rest

end Lexgen.Json.Scan
