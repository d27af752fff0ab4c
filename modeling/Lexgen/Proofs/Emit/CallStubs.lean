import Lexgen.Artifact
import Lexgen.Proofs.Emit.ParamNames

namespace Lexgen.Emit

open Lexgen.Schema

/-- What the function of a call takes beside the client. -/
inductive CallInput where
  | nothing
  /-- A map, whose keys are renamed for the request. -/
  | renamed (params : List Param)
  /-- A body of the given type that is sent as it is. -/
  | whole (type : String)

/-- What the node of a call asks for. -/
def CallInput.ofNode (nsid : String) (kind : CallKind) (node : Json) : CallInput :=
  match kind with
  | .query => .renamed (Param.ofFields (Field.ofNode nsid ((node.get? "parameters").getD .null))).1
  | .procedure =>
    match node.get? "input" with
    | none => .nothing
    | some body =>
      match Definition.bodyFields nsid body with
      | [] => .whole (Definition.bodyType nsid body).typeSpec
      | field :: fields => .renamed (Param.ofFields (field :: fields)).1

def CallInput.ofFile (f : CallFile) : CallInput :=
  if f.hasParams then .renamed f.params
  else
    match f.inputType with
    | none => .nothing
    | some type => .whole type

inductive Operand where
  | nil
  | text (contents : String)
  | constant (name : String)
  | argument (name : String)
  /-- An argument with its keys renamed by an attribute. -/
  | encoded (name keys : String)
  deriving DecidableEq

namespace Operand

def code (sender : String) : Operand → String
  | .nil => "nil"
  | .text contents => quoted contents
  | .constant name => "@" ++ name
  | .argument name => name
  | .encoded name keys => sender ++ ".encode_params(" ++ name ++ ", @" ++ keys ++ ")"

def arguments : Operand → List String
  | .argument name => [name]
  | .encoded name _ => [name]
  | _ => []

def attributes : Operand → List String
  | .constant name => [name]
  | .encoded _ keys => [keys]
  | _ => []

end Operand

structure CallStub where
  sender : String
  attributes : List (String × String)
  types : List (String × String)
  function : String
  /-- The types of the arguments behind the client, by the names they have in the module. -/
  specification : List String
  /-- The parameters behind the client, and whether they may be left out. -/
  parameters : List (String × Bool)
  request : String
  /-- What the request is given. -/
  operands : List Operand

namespace CallStub

def attributeLine (entry : String × String) : String := "  @" ++ entry.1 ++ " " ++ entry.2

def typeLine (entry : String × String) : String := "  @type " ++ entry.1 ++ " :: " ++ entry.2

def specLine (m : CallStub) : String :=
  "  @spec " ++ m.function ++ "(" ++
    ", ".intercalate ((m.sender ++ ".client()") :: m.specification.map (· ++ "()")) ++
    ") :: \x7b:ok, output()\x7d | \x7b:error, term()\x7d"

def functionLine (m : CallStub) : String :=
  "  def " ++ m.function ++ "(" ++
    ", ".intercalate ("client" :: m.parameters.map fun (name, optional) =>
      name ++ if optional then " \\\\ %\x7b\x7d" else "") ++ ") do"

def requestLine (m : CallStub) : String :=
  "    " ++ m.sender ++ "." ++ m.request ++ "(" ++
    ", ".intercalate (m.operands.map (Operand.code m.sender)) ++ ")"

def lines (m : CallStub) : List String :=
  m.attributes.map attributeLine ++ [""] ++ m.types.map typeLine ++
    ["", m.specLine, m.functionLine, m.requestLine, "  end", "end"]

/-- The parts fit together. -/
structure IsConsistent (m : CallStub) : Prop where
  renamed_iff : "params" ∈ m.attributes.map Prod.fst ↔ ∃ name, .encoded name "params" ∈ m.operands
  specified : m.specification = m.parameters.map Prod.fst
  typed : ∀ name ∈ "output" :: m.specification, name ∈ m.types.map Prod.fst
  declared : ∀ operand ∈ m.operands, ∀ name ∈ operand.attributes, name ∈ m.attributes.map Prod.fst
  bound : ∀ operand ∈ m.operands, ∀ name ∈ operand.arguments,
    name ∈ "client" :: m.parameters.map Prod.fst
  sent : ∀ name ∈ m.parameters.map Prod.fst, ∃ operand ∈ m.operands, name ∈ operand.arguments

end CallStub

def argumentName : CallKind → String
  | .query => "params"
  | .procedure => "input"

def payload (kind : CallKind) (encoding : Option String) (body : Operand) : List Operand :=
  match kind with
  | .query => [body]
  | .procedure => [body, .text (encoding.getD "application/json")]

def CallFile.bareStub (f : CallFile) : CallStub where
  sender := f.sender
  attributes := [("nsid", quoted f.nsid)]
  types := [("output", f.outputType)]
  function := f.function
  specification := []
  parameters := []
  request := f.kind.name
  operands := [.argument "client", .constant "nsid", .nil, .nil]

def CallFile.stub (f : CallFile) : CallInput → CallStub
  | .nothing => f.bareStub
  | .renamed params =>
    { f.bareStub with
      attributes := [("nsid", quoted f.nsid),
        ("params", mapOf (params.map fun p => p.key ++ " " ++ quoted p.wireName))]
      types := [(argumentName f.kind, Param.mapType params), ("output", f.outputType)]
      specification := [argumentName f.kind]
      parameters := [(argumentName f.kind, f.kind = .query && params.all (!·.required))]
      operands := [.argument "client", .constant "nsid"] ++
        payload f.kind f.inputEncoding (.encoded (argumentName f.kind) "params") }
  | .whole type =>
    { f.bareStub with
      types := [(argumentName f.kind, type), ("output", f.outputType)]
      specification := [argumentName f.kind]
      parameters := [(argumentName f.kind, false)]
      operands := [.argument "client", .constant "nsid"] ++
        payload f.kind f.inputEncoding (.argument (argumentName f.kind)) }

theorem CallStub.isConsistent_stub (f : CallFile) (input : CallInput) :
    (f.stub input).IsConsistent := by
  cases input with
  | nothing =>
      constructor
      all_goals simp [CallFile.stub, CallFile.bareStub, Operand.attributes, Operand.arguments]
  | renamed params =>
      cases hkind : f.kind
      all_goals
        constructor
        all_goals simp [CallFile.stub, CallFile.bareStub, payload, Operand.attributes,
          Operand.arguments, hkind]
  | whole type =>
      cases hkind : f.kind
      all_goals
        constructor
        all_goals simp [CallFile.stub, CallFile.bareStub, payload, Operand.attributes,
          Operand.arguments, hkind]

section Procedure

variable {f : CallFile} (hkind : f.kind = .procedure) (input : CallInput)

include hkind

theorem input_mem_parameters_stub_iff :
    "input" ∈ (f.stub input).parameters.map Prod.fst ↔ input ≠ .nothing := by
  cases input with
  | nothing => simp [CallFile.stub, CallFile.bareStub]
  | renamed params => simp [CallFile.stub, argumentName, hkind]
  | whole type => simp [CallFile.stub, argumentName, hkind]

theorem operands_stub_eq_iff :
    (f.stub input).operands = [.argument "client", .constant "nsid", .nil, .nil] ↔
      input = .nothing := by
  cases input with
  | nothing => simp [CallFile.stub, CallFile.bareStub]
  | renamed params => simp [CallFile.stub, payload, hkind]
  | whole type => simp [CallFile.stub, payload, hkind]

end Procedure

section Text

def CallFile.head (f : CallFile) : List String :=
  header (some f.nsid) ++ ["defmodule " ++ f.moduleName ++ " do"] ++
    moduleDoc (some f.documentation)

structure CallStub.Describes (m : CallStub) (f : CallFile) : Prop where
  sender : m.sender = f.sender
  function : m.function = f.function
  attributes : m.attributes.map attributeLine = ("  @nsid " ++ quoted f.nsid) :: f.paramsLine
  types : m.types.map typeLine = f.typeLines
  specification : m.specification = f.argument?.toList.map Prod.fst
  parameters : m.parameters = f.argument?.toList.map fun argument => (argument.1, f.isOptional)
  request : m.requestLine = f.requestLine

variable {m : CallStub} {f : CallFile}

theorem CallStub.Describes.specLine (h : m.Describes f) : m.specLine = f.specLine := by
  unfold CallStub.specLine CallFile.specLine
  rw [h.sender, h.function, h.specification]
  cases f.argument? with
  | none => simp [← String.toList_inj]
  | some argument => simp [← String.toList_inj]

theorem CallStub.Describes.functionLine (h : m.Describes f) : m.functionLine = f.functionLine := by
  unfold CallStub.functionLine CallFile.functionLine
  rw [h.function, h.parameters]
  cases f.argument? with
  | none => simp [← String.toList_inj]
  | some argument => simp [← String.toList_inj]

theorem CallStub.Describes.text (h : m.Describes f) :
    f.text = unlines (f.head ++ m.lines) := by
  rw [CallFile.text, CallFile.head, CallStub.lines, h.attributes, h.types, h.specLine,
    h.functionLine, h.request]
  simp only [List.append_assoc, List.cons_append, List.nil_append]

theorem CallFile.argument?_cases (f : CallFile) :
    (f.hasParams = true ∧ CallInput.ofFile f = .renamed f.params ∧
        f.argument? = some (argumentName f.kind, f.paramsType)) ∨
      (f.kind = .procedure ∧ f.hasParams = false ∧ CallInput.ofFile f = .nothing ∧
        f.argument? = none) ∨
      ∃ type, f.kind = .procedure ∧ f.hasParams = false ∧ CallInput.ofFile f = .whole type ∧
        f.argument? = some ("input", type) := by
  cases hparams : f.hasParams with
  | true =>
      left
      refine ⟨rfl, by rw [CallInput.ofFile, if_pos hparams], ?_⟩
      cases hkind : f.kind with
      | query => simp [CallFile.argument?, argumentName, hkind]
      | procedure => simp [CallFile.argument?, argumentName, hkind, hparams]
  | false =>
      right
      -- the argument of a query is always a map
      have hkind : f.kind = .procedure := by
        cases hkind : f.kind with
        | query => simp [CallFile.hasParams, hkind] at hparams
        | procedure => rfl
      cases htype : f.inputType with
      | none => simp [CallInput.ofFile, CallFile.argument?, hkind, hparams, htype]
      | some type => simp [CallInput.ofFile, CallFile.argument?, hkind, hparams, htype]

theorem describes_stub (htype : f.paramsType = Param.mapType f.params) :
    (f.stub (.ofFile f)).Describes f := by
  rcases f.argument?_cases with ⟨hparams, hinput, hargument⟩ |
    ⟨hkind, hparams, hinput, hargument⟩ | ⟨type, hkind, hparams, hinput, hargument⟩
  · rw [hinput]
    constructor
    case request =>
      cases hkind : f.kind
      all_goals simp [CallFile.stub, CallFile.bareStub, CallStub.requestLine, payload,
        argumentName, Operand.code, CallKind.name, CallFile.requestLine, CallFile.encodedArgument,
        hparams, hargument, hkind, ← String.toList_inj]
    all_goals simp [CallFile.stub, CallFile.bareStub, CallStub.attributeLine, CallStub.typeLine,
      CallFile.paramsLine, CallFile.typeLines, CallFile.isOptional, hparams, hargument, htype]
  · rw [hinput]
    constructor
    case request =>
      simp [CallFile.stub, CallFile.bareStub, CallStub.requestLine, Operand.code, CallKind.name,
        CallFile.requestLine, hargument, hkind, ← String.toList_inj]
    all_goals simp [CallFile.stub, CallFile.bareStub, CallStub.attributeLine, CallStub.typeLine,
      CallFile.paramsLine, CallFile.typeLines, hparams, hargument]
  · rw [hinput]
    constructor
    case request =>
      simp [CallFile.stub, CallFile.bareStub, CallStub.requestLine, payload, argumentName,
        Operand.code, CallKind.name, CallFile.requestLine, CallFile.encodedArgument,
        hparams, hargument, hkind, ← String.toList_inj]
    all_goals simp [CallFile.stub, CallFile.bareStub, CallStub.attributeLine, CallStub.typeLine,
      CallFile.paramsLine, CallFile.typeLines, CallFile.isOptional, argumentName, hparams,
      hargument, hkind]

theorem CallFile.text_eq {input : CallInput} (htype : f.paramsType = Param.mapType f.params)
    (hinput : CallInput.ofFile f = input) :
    f.text = unlines (f.head ++ (f.stub input).lines) := by
  rw [← hinput]
  exact (describes_stub htype).text

end Text

section Node

variable (nsid key : String) (node : Json)

theorem isEmpty_ofFields (fields : List Field) :
    (Param.ofFields fields).1.isEmpty = fields.isEmpty := by
  have hnames : (Param.ofFields fields).1.map (·.wireName) = fields.map (·.name) :=
    Param.map_ofFields_of_field (fun _ _ => rfl) fields
  rw [← List.isEmpty_map, hnames, List.isEmpty_map]

variable (l : Lexicon) (runtimeModule : String)

theorem ofFile_callFile_ofQuery :
    CallInput.ofFile (l.callFile runtimeModule .query (Definition.ofQuery nsid key node)).1 =
      .ofNode nsid .query node := by
  rfl

theorem ofFile_callFile_ofProcedure :
    CallInput.ofFile
        (l.callFile runtimeModule .procedure (Definition.ofProcedure nsid key node)).1 =
      .ofNode nsid .procedure node := by
  rw [CallInput.ofNode, CallInput.ofFile, CallFile.hasParams, Definition.ofProcedure]
  cases node.get? "input" with
  | none => rfl
  | some body =>
      -- the parameters of the file and the type of its body both hang on the fields of the body
      cases hfields : Definition.bodyFields nsid body with
      | nil => simp [Lexicon.callFile, isEmpty_ofFields, hfields]
      | cons field fields => simp [Lexicon.callFile, isEmpty_ofFields, hfields]

theorem inputType_ofProcedure_eq_none
    (hfields : (Definition.ofProcedure nsid key node).inputFields ≠ []) :
    (Definition.ofProcedure nsid key node).inputType = none := by
  revert hfields
  rw [Definition.ofProcedure]
  cases node.get? "input" with
  | none => exact fun _ => rfl
  | some body =>
      intro hfields
      exact if_neg (by simpa using hfields)

theorem ofNode_procedure_eq_nothing_iff :
    CallInput.ofNode nsid .procedure node = .nothing ↔ node.get? "input" = none := by
  rw [CallInput.ofNode]
  cases node.get? "input" with
  | none => simp
  | some body => cases hfields : Definition.bodyFields nsid body <;> simp [hfields]

end Node

/-- The parts of the module that a call is emitted as fit together. A procedure has an argument
exactly if its node has an input, and a call has fields or the type of a body, but not both. -/
theorem call_stub_consistent (l : Lexicon) (runtimeModule nsid key : String) (kind : CallKind)
    (node : Json) (hkind : Kind.of? node = some kind.kind) :
    ∃ d, Definition.ofNode nsid key node = .ok (.call kind d) ∧
      let file := (l.callFile runtimeModule kind d).1
      let stub := file.stub (.ofNode nsid kind node)
      file.text = unlines (file.head ++ stub.lines) ∧ stub.IsConsistent ∧
        (kind = .procedure →
          ("input" ∈ stub.parameters.map Prod.fst ↔ node.get? "input" ≠ none) ∧
          (stub.operands = [.argument "client", .constant "nsid", .nil, .nil] ↔
            node.get? "input" = none)) ∧
        (kind = .query → stub.parameters.map Prod.fst = ["params"]) ∧
        (d.inputFields ≠ [] → d.inputType = none) ∧
        (kind = .query → d.inputType = none ∧ d.inputEncoding = none) := by
  cases kind with
  | query =>
      refine ⟨Definition.ofQuery nsid key node, by rw [Definition.ofNode, hkind]; rfl, ?_⟩
      intro file stub
      have htext : file.text = unlines (file.head ++ stub.lines) :=
        CallFile.text_eq rfl (ofFile_callFile_ofQuery nsid key node l runtimeModule)
      exact ⟨htext, CallStub.isConsistent_stub file _, nofun, fun _ => rfl, fun _ => rfl,
        fun _ => ⟨rfl, rfl⟩⟩
  | procedure =>
      refine ⟨Definition.ofProcedure nsid key node, by rw [Definition.ofNode, hkind]; rfl, ?_⟩
      intro file stub
      have htext : file.text = unlines (file.head ++ stub.lines) :=
        CallFile.text_eq rfl (ofFile_callFile_ofProcedure nsid key node l runtimeModule)
      have hnothing := ofNode_procedure_eq_nothing_iff nsid node
      refine ⟨htext, CallStub.isConsistent_stub file _, fun _ => ⟨?_, ?_⟩, nofun,
        inputType_ofProcedure_eq_none nsid key node, nofun⟩
      · rw [input_mem_parameters_stub_iff rfl, Ne, hnothing]
      · rw [operands_stub_eq_iff rfl, hnothing]

/-- A procedure whose body is an object without properties, so that it is sent as a whole. -/
def storeNode : Json :=
  .object [
    ("input", .object [
      ("encoding", .string "application/json"),
      ("schema", .object [("type", .string "object")])]),
    ("type", .string "procedure")]

def storeLexicon : Lexicon :=
  (Lexicon.ofDocument { id := "com.example.putAll", defs := [("main", storeNode)] }).1

theorem call_stub_consistent_store :
    ∃ d, Definition.ofNode "com.example.putAll" "main" storeNode = .ok (.call .procedure d) ∧
      let stub := (storeLexicon.callFile "Lexicon" .procedure d).1.stub
        (.ofNode "com.example.putAll" .procedure storeNode)
      stub.IsConsistent ∧ "input" ∈ stub.parameters.map Prod.fst ∧
        stub.operands =
          [.argument "client", .constant "nsid", .argument "input", .text "application/json"] ∧
        stub.types = [("input", "map()"), ("output", "nil")] := by
  obtain ⟨d, hd, -, hconsistent, hprocedure, -⟩ := call_stub_consistent storeLexicon "Lexicon"
    "com.example.putAll" "main" .procedure storeNode (by decide +kernel)
  have hcall : d = Definition.ofProcedure "com.example.putAll" "main" storeNode := by
    cases hd
    rfl
  subst hcall
  exact ⟨_, hd, hconsistent, (hprocedure rfl).1.mpr (by decide +kernel), by decide +kernel,
    by decide +kernel⟩

end Lexgen.Emit
