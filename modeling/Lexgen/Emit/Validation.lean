import Lexgen.Event
import Lexgen.Schema.Field

namespace Lexgen.Emit

open Lexgen.Schema

/-- What a bound is a bound of. -/
inductive Measure where
  | range
  | byteLength
  | graphemeLength
  | itemCount
  deriving DecidableEq, Repr

def Measure.name : Measure → String
  | .range => "range"
  | .byteLength => "byte-length"
  | .graphemeLength => "grapheme-length"
  | .itemCount => "item-count"

/-- Bounds of a measure; one side at least is there. -/
structure BoundCheck where
  measure : Measure
  min : Option Int
  max : Option Int
  deriving DecidableEq, Repr

/-- The check that a pair of constraints asks for. -/
def BoundCheck.ofPair? (cs : Constraints) (measure : Measure) (min max : Constraint) :
    Option BoundCheck :=
  let check : BoundCheck := ⟨measure, cs.bound? min, cs.bound? max⟩
  if check.min.isSome || check.max.isSome then some check else none

/-- The pairs of constraints that bound values of a storage type. -/
def boundPairs : StorageType → List (Measure × Constraint × Constraint)
  | .integer => [(.range, .minimum, .maximum)]
  | .text =>
    [(.byteLength, .minLength, .maxLength), (.graphemeLength, .minGraphemes, .maxGraphemes)]
  | .bytes => [(.byteLength, .minLength, .maxLength)]
  | .array _ => [(.itemCount, .minLength, .maxLength)]
  | _ => []

/-- The bound checks of a field. -/
def boundChecks (f : Field) : List BoundCheck :=
  (boundPairs f.storage).filterMap fun (measure, min, max) =>
    BoundCheck.ofPair? f.constraints measure min max

inductive ValidationStep where
  | cast (fields : List String)
  | require (fields : List String)
  | check (field : String) (checks : List BoundCheck)
  deriving DecidableEq, Repr

/-- The steps that check bounds, and a report of each field whose constraints bound nothing. -/
def checkSteps : List Field → List ValidationStep × List Event
  | [] => ([], [])
  | f :: rest =>
    let (steps, events) := checkSteps rest
    if f.constraints.isEmpty then (steps, events)
    else if (boundChecks f).isEmpty then (steps, .noBoundPair f.name :: events)
    else (.check f.name (boundChecks f) :: steps, events)

/-- A step over some fields, if there are any. -/
def stepOver (step : List String → ValidationStep) (fields : List Field) : List ValidationStep :=
  if fields.isEmpty then [] else [step (fields.map (·.name))]

/-- The validation of a record with the given fields. -/
def validation (fields : List Field) : List ValidationStep × List Event :=
  let (checks, events) := checkSteps fields
  (stepOver .cast fields ++ stepOver .require (fields.filter (·.required)) ++ checks, events)

def BoundCheck.toJson (c : BoundCheck) : Json :=
  Json.ofFields [
    ("kind", some (.string c.measure.name)),
    ("min", c.min.map Json.ofInt),
    ("max", c.max.map Json.ofInt)]

def ValidationStep.toJson : ValidationStep → Json
  | .cast fields => .object [("step", .string "cast"), ("fields", Json.strings fields)]
  | .require fields => .object [("step", .string "required"), ("fields", Json.strings fields)]
  | .check field checks =>
    .object [
      ("step", .string "check"),
      ("field", .string field),
      ("checks", .array (checks.map BoundCheck.toJson))]

end Lexgen.Emit
