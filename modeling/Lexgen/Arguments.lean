import Lexgen.Number.Word
import Lexgen.Path

/-!
The arguments of the command line. A setting takes a value and is written `--output X`,
`--output=X`, `-o X`, `-oX` or `-o=X`; a flag takes none, and short flags may be written together.
Two dashes alone end the settings and flags; all else is an input.
-/

namespace Lexgen

open Lexgen.Text

structure Arguments where
  inputs : List String := []
  output : Option Path := none
  clean : Bool := false
  jobs : Option Nat := none
  runtimeModule : Option String := none
  checkRefs : Bool := false
  printIr : Bool := false
  verbose : Nat := 0
  config : Option Path := none
  deriving DecidableEq, Repr

namespace Arguments

/-- Why arguments do not lead to a run. -/
inductive Refusal where
  | unknownArgument
  | missingValue
  | invalidNumber
  | repeated
  | unexpectedValue
  | helpRequested
  | versionRequested
  deriving DecidableEq, Repr

inductive Setting where
  | output
  | jobs
  | runtimeModule
  | config
  deriving DecidableEq, Repr

inductive Flag where
  | clean
  | checkRefs
  | printIr
  | verbose
  | help
  | version
  deriving DecidableEq, Repr

/-- What a name on the command line stands for. -/
inductive Switch where
  | setting (which : Setting)
  | flag (which : Flag)
  deriving DecidableEq, Repr

def Switch.ofLong? : String → Option Switch
  | "output" => some (.setting .output)
  | "jobs" => some (.setting .jobs)
  | "runtime-module" => some (.setting .runtimeModule)
  | "config" => some (.setting .config)
  | "clean" => some (.flag .clean)
  | "check-refs" => some (.flag .checkRefs)
  | "print-ir" => some (.flag .printIr)
  | "verbose" => some (.flag .verbose)
  | "help" => some (.flag .help)
  | "version" => some (.flag .version)
  | _ => none

def Switch.ofShort? : Char → Option Switch
  | 'o' => some (.setting .output)
  | 'j' => some (.setting .jobs)
  | 'c' => some (.setting .config)
  | 'd' => some (.flag .clean)
  | 'v' => some (.flag .verbose)
  | 'h' => some (.flag .help)
  | 'V' => some (.flag .version)
  | _ => none

/-- A number of 64 bits in decimal digits, with a plus sign if one likes. -/
def readJobs? (text : String) : Option Nat :=
  let digits := match text.toList with
    | '+' :: rest => rest
    | cs => cs
  if digits.isEmpty ∨ ¬ digits.all Char.isDigit then none
  else
    let value := digits.foldl (fun n c => 10 * n + (c.toNat - '0'.toNat)) 0
    if value < Word.size64 then some value else none

/-- Refuses to set again what is set. -/
def unlessSet (isSet : Bool) (a : Arguments) : Except Refusal Arguments :=
  if isSet then .error .repeated else .ok a

/-- A path on the command line is not empty. -/
def readPath (text : String) : Except Refusal Path :=
  if text = "" then .error .missingValue else .ok ⟨text⟩

/-- The arguments with a setting's value. -/
def store (a : Arguments) (which : Setting) (text : String) : Except Refusal Arguments := do
  match which with
  | .output =>
    let a ← unlessSet a.output.isSome a
    return { a with output := some (← readPath text) }
  | .config =>
    let a ← unlessSet a.config.isSome a
    return { a with config := some (← readPath text) }
  | .runtimeModule =>
    let a ← unlessSet a.runtimeModule.isSome a
    return { a with runtimeModule := some text }
  | .jobs =>
    let a ← unlessSet a.jobs.isSome a
    match readJobs? text with
    | some jobs => return { a with jobs := some jobs }
    | none => throw .invalidNumber

/-- The most that repeated `-v` can ask for. -/
def maxVerbose : Nat := 255

/-- The arguments with a flag. -/
def raiseFlag (a : Arguments) : Flag → Except Refusal Arguments
  | .clean => unlessSet a.clean { a with clean := true }
  | .checkRefs => unlessSet a.checkRefs { a with checkRefs := true }
  | .printIr => unlessSet a.printIr { a with printIr := true }
  | .verbose => .ok { a with verbose := min maxVerbose (a.verbose + 1) }
  | .help => .error .helpRequested
  | .version => .error .versionRequested

/-- The state between two arguments. A setting waits for its value and is stored when the next
argument shows that the value is complete. -/
structure Reading where
  arguments : Arguments := {}
  waiting : Option (Setting × Option String) := none
  ended : Bool := false
  deriving DecidableEq, Repr

namespace Reading

/-- Stores the setting that waits. -/
def settle (r : Reading) : Except Refusal Reading :=
  match r.waiting with
  | none => .ok r
  | some (_, none) => .error .missingValue
  | some (which, some text) => do
    return { r with arguments := ← r.arguments.store which text, waiting := none }

def addFlag (r : Reading) (which : Flag) : Except Refusal Reading := do
  let r ← r.settle
  return { r with arguments := ← r.arguments.raiseFlag which }

/-- Takes a setting, with its value if that is in the same argument. -/
def addSetting (r : Reading) (which : Setting) (value : Option String) :
    Except Refusal Reading := do
  let r ← r.settle
  match value with
  | some text => return { r with arguments := ← r.arguments.store which text }
  | none => return { r with waiting := some (which, none) }

/-- Takes an argument that began with two dashes. -/
def addLong (r : Reading) (cs : List Char) : Except Refusal Reading :=
  let (name, value) := match cutFirst '=' cs with
    | some (name, value) => (name, some (String.ofList value))
    | none => (cs, none)
  match Switch.ofLong? (String.ofList name), value with
  | none, _ => .error .unknownArgument
  | some (.setting which), value => r.addSetting which value
  | some (.flag which), none => r.addFlag which
  | some (.flag _), some _ => .error .unexpectedValue

/-- Takes the letters of an argument that began with one dash. What follows the letter of a setting
is its value. -/
def addShort (r : Reading) : List Char → Except Refusal Reading
  | [] => .ok r
  | c :: rest =>
    match Switch.ofShort? c with
    | none => .error .unknownArgument
    | some (.flag which) => do (← r.addFlag which).addShort rest
    | some (.setting which) =>
      r.addSetting which <|
        match rest with
        | [] => none
        | '=' :: value => some (String.ofList value)
        | value => some (String.ofList value)

/-- Takes an argument that is neither a setting nor a flag: a value that is waited for, or an
input. -/
def addPlain (r : Reading) (text : String) : Except Refusal Reading :=
  match r.waiting, r.ended with
  | some (which, none), false => .ok { r with waiting := some (which, some text) }
  | _, _ => do
    let r ← r.settle
    return { r with arguments.inputs := r.arguments.inputs ++ [text] }

/-- Takes one argument. -/
def add (r : Reading) (text : String) : Except Refusal Reading :=
  if r.ended then r.addPlain text
  else
    match text.toList with
    | ['-', '-'] => .ok { r with ended := true }
    | '-' :: '-' :: rest => r.addLong rest
    | ['-'] => r.addPlain text
    | '-' :: rest => r.addShort rest
    | _ => r.addPlain text

end Reading

/-- Reads the arguments that follow the program's name. -/
def parse (argv : List String) : Except Refusal Arguments := do
  let r ← argv.foldlM Reading.add {}
  return (← r.settle).arguments

end Arguments

end Lexgen
