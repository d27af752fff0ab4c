import Lexgen.Json.Reader
import Lexgen.Tid.Basic

namespace Lexgen.Tid

open Lexgen.Json
open Lexgen.Text

/-- Why a JSON text holds no TID. -/
inductive JsonError where
  | json (error : Json.Error)
  | tid (error : Tid.Error)
  deriving DecidableEq, Repr

def JsonError.message : JsonError → String
  | .json error => error.message
  | .tid error => error.message

/-- A string and nothing else. -/
def scanString : Scan String := do
  match ← Scan.opening with
  | .scalar (.string s) => pure s
  | .scalar value => Scan.fail (.wrongKind (.of value) .string)
  | .array => Scan.fail (.wrongKind .sequence .string)
  | .object => Scan.fail (.wrongKind .map .string)

/-- Reads a JSON text that holds a TID. The string is judged before what follows it. -/
def parseJson (bytes : Bytes) : Except JsonError Tid :=
  match scanString bytes with
  | .error failure => .error (.json (failure.toError bytes))
  | .ok (s, rest) =>
    match parse s with
    | .error e => .error (.tid e)
    | .ok tid =>
      match Scan.finish rest with
      | .error failure => .error (.json (failure.toError bytes))
      | .ok _ => .ok tid

def toJsonText (tid : Tid) : String := Json.quoted tid.text

end Lexgen.Tid
