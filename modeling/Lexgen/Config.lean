import Lexgen.Kdl.Reader
import Lexgen.Number.Word
import Lexgen.Path

namespace Lexgen

/-- What a configuration file says. Every node but `input` may occur once. -/
structure Config where
  output : Option Path := none
  runtimeModule : Option String := none
  clean : Option Bool := none
  jobs : Option Nat := none
  checkRefs : Option Bool := none
  inputs : List String := []
  deriving DecidableEq, Repr

namespace Config

/-- The configuration file that is looked for when none is named. -/
def defaultFile : Path := ⟨"dobby.kdl"⟩

/-- Why a configuration cannot be used. -/
inductive Problem where
  | notKdl
  | hasBlock (node : String)
  | notOneValue (node : String)
  | notString (node : String)
  | notBool (node : String)
  | notPositive
  | repeated (node : String)
  | unknownNode (node : String)
  | noInputs
  deriving DecidableEq, Repr

def Problem.message : Problem → String
  | .notKdl => "failed to parse KDL: Failed to parse KDL document"
  | .hasBlock node => node ++ " does not take a block"
  | .notOneValue node => node ++ " expects exactly one value"
  | .notString node => node ++ " expects a string value"
  | .notBool node => node ++ " expects #true or #false"
  | .notPositive => "jobs expects a positive integer"
  | .repeated node => node ++ " set more than once"
  | .unknownNode node => "unknown config node: " ++ node
  | .noInputs => "no inputs given on the command line or in the config"

/-- The value of a node that has one value without a name and no block. -/
def singleValue (node : Kdl.Node) : Except Problem Kdl.Value :=
  if node.children.isSome then .error (.hasBlock node.name)
  else
    match node.entries with
    | [{ name := none, value }] => .ok value
    | _ => .error (.notOneValue node.name)

def expectString (node : String) : Kdl.Value → Except Problem String
  | .string text => .ok text
  | _ => .error (.notString node)

def expectBool (node : String) : Kdl.Value → Except Problem Bool
  | .bool value => .ok value
  | _ => .error (.notBool node)

/-- A positive integer of 64 bits. -/
def expectJobs : Kdl.Value → Except Problem Nat
  | .integer n => if 0 < n ∧ n < Word.size64 then .ok n.toNat else .error .notPositive
  | _ => .error .notPositive

/-- A setting that is not set yet, set. -/
def setOnce {α : Type} (node : String) (slot : Option α) (value : α) :
    Except Problem (Option α) :=
  if slot.isSome then .error (.repeated node) else .ok (some value)

/-- The configuration after a further node. -/
def addNode (c : Config) (node : Kdl.Node) : Except Problem Config := do
  let value ← singleValue node
  match node.name with
  | "output" =>
    let output ← expectString node.name value
    return { c with output := ← setOnce node.name c.output ⟨output⟩ }
  | "runtime-module" =>
    let runtimeModule ← expectString node.name value
    return { c with runtimeModule := ← setOnce node.name c.runtimeModule runtimeModule }
  | "clean" =>
    let clean ← expectBool node.name value
    return { c with clean := ← setOnce node.name c.clean clean }
  | "jobs" =>
    let jobs ← expectJobs value
    return { c with jobs := ← setOnce node.name c.jobs jobs }
  | "check-refs" =>
    let checkRefs ← expectBool node.name value
    return { c with checkRefs := ← setOnce node.name c.checkRefs checkRefs }
  | "input" =>
    let input ← expectString node.name value
    return { c with inputs := c.inputs ++ [input] }
  | other => .error (.unknownNode other)

/-- The configuration that nodes describe, or the problem of the first node that has one. -/
def ofNodes (nodes : List Kdl.Node) : Except Problem Config :=
  nodes.foldlM addNode {}

/-- Reads a configuration. -/
def parse (text : String) : Except Problem Config :=
  match Kdl.parse text with
  | some nodes => ofNodes nodes
  | none => .error .notKdl

end Config

end Lexgen
