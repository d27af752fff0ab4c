import Lexgen.Definition.Json
import Lexgen.Emit.Lines
import Lexgen.Emit.Param

namespace Lexgen.Emit

structure CallFile where
  nsid : String
  moduleName : String
  kind : CallKind
  /-- The name of the function. -/
  function : String
  description : Option String
  params : List Param
  /-- The type of the map of parameters. -/
  paramsType : String
  /-- The type of a body that is not given by parameters. -/
  inputType : Option String
  outputType : String
  inputEncoding : Option String
  outputEncoding : Option String
  errors : List String
  runtimeModule : String
  deriving DecidableEq, Repr

namespace CallFile

/-- The module that sends requests. -/
def sender (f : CallFile) : String := f.runtimeModule ++ ".XRPC"

/-- What the module says about itself: its description and the errors of the call. -/
def documentation (f : CallFile) : String :=
  let description := f.description.getD ""
  if f.errors.isEmpty then description
  else
    description ++ (if description = "" then "" else "\n\n") ++ "Errors: " ++
      ", ".intercalate (f.errors.map fun e => "`" ++ e ++ "`") ++ "."

/-- Whether the argument is a map of parameters, to be renamed for the request. -/
def hasParams (f : CallFile) : Bool := f.kind = .query || !f.params.isEmpty

/-- The name of the function's second argument, and the type of that name. -/
def argument? (f : CallFile) : Option (String × String) :=
  match f.kind with
  | .query => some ("params", f.paramsType)
  | .procedure =>
    if f.hasParams then some ("input", f.paramsType) else f.inputType.map ("input", ·)

def paramsLine (f : CallFile) : List String :=
  if f.hasParams then
    ["  @params " ++ mapOf (f.params.map fun p => p.key ++ " " ++ quoted p.wireName)]
  else []

def typeLines (f : CallFile) : List String :=
  (match f.argument? with
  | some (name, type) => ["  @type " ++ name ++ " :: " ++ type]
  | none => []) ++ ["  @type output :: " ++ f.outputType]

def specLine (f : CallFile) : String :=
  "  @spec " ++ f.function ++ "(" ++ f.sender ++ ".client()" ++
    (match f.argument? with
    | some (name, _) => ", " ++ name ++ "()"
    | none => "") ++
    ") :: \x7b:ok, output()\x7d | \x7b:error, term()\x7d"

/-- Whether the argument may be left out. -/
def isOptional (f : CallFile) : Bool := f.kind = .query && f.params.all (!·.required)

def functionLine (f : CallFile) : String :=
  "  def " ++ f.function ++ "(client" ++
    (match f.argument? with
    | some (name, _) => ", " ++ name ++ if f.isOptional then " \\\\ %\x7b\x7d" else ""
    | none => "") ++
    ") do"

/-- The argument as it goes into a request. -/
def encodedArgument (f : CallFile) (name : String) : String :=
  if f.hasParams then f.sender ++ ".encode_params(" ++ name ++ ", @params)" else name

def requestLine (f : CallFile) : String :=
  "    " ++ f.sender ++
    match f.kind, f.argument? with
    | .query, _ => ".query(client, @nsid, " ++ f.encodedArgument "params" ++ ")"
    | .procedure, some (name, _) =>
      ".procedure(client, @nsid, " ++ f.encodedArgument name ++ ", " ++
        quoted (f.inputEncoding.getD "application/json") ++ ")"
    | .procedure, none => ".procedure(client, @nsid, nil, nil)"

def text (f : CallFile) : String :=
  unlines <|
    header (some f.nsid) ++ ["defmodule " ++ f.moduleName ++ " do"] ++
      moduleDoc (some f.documentation) ++ ["  @nsid " ++ quoted f.nsid] ++ f.paramsLine ++ [""] ++
      f.typeLines ++ ["", f.specLine, f.functionLine, f.requestLine, "  end", "end"]

def toJson (f : CallFile) : Json :=
  Json.ofFields [
    ("nsid", some (.string f.nsid)),
    ("module", some (.string f.moduleName)),
    ("kind", some (.string f.kind.name)),
    ("function", some (.string f.function)),
    ("description", f.description.map .string),
    ("params", some (.array (f.params.map Param.toJson))),
    ("params_type", some (.string f.paramsType)),
    ("input_type", f.inputType.map .string),
    ("output_type", some (.string f.outputType)),
    ("input_encoding", f.inputEncoding.map .string),
    ("output_encoding", f.outputEncoding.map .string),
    ("errors", some (Json.strings f.errors)),
    ("runtime_module", some (.string f.runtimeModule))]

end CallFile

end Lexgen.Emit
