import Lexgen.Definition.Json
import Lexgen.Emit.Field
import Lexgen.Emit.Lines
import Lexgen.Emit.Validation

namespace Lexgen.Emit

structure RecordFile where
  nsid : String
  moduleName : String
  description : Option String
  /-- The name of the table. -/
  source : String
  primaryKey : PrimaryKey
  primaryKeyAtom : String
  runtimeModule : String
  fields : List FieldText
  validation : List ValidationStep
  deriving DecidableEq, Repr

/-- The options of a bound check, in order. -/
def BoundCheck.options (c : BoundCheck) : List String :=
  let (minKey, maxKey) :=
    if c.measure = .range then ("greater_than_or_equal_to", "less_than_or_equal_to")
    else ("min", "max")
  (c.min.map fun n => minKey ++ ": " ++ (Number.integer n).text).toList ++
    (c.max.map fun n => maxKey ++ ": " ++ (Number.integer n).text).toList ++
    (if c.measure = .byteLength then ["count: :bytes"] else [])

def BoundCheck.function (c : BoundCheck) : String :=
  if c.measure = .range then "validate_number" else "validate_length"

def BoundCheck.line (atom : String) (c : BoundCheck) : String :=
  "    |> " ++ c.function ++ "(" ++ atom ++ ", " ++ ", ".intercalate c.options ++ ")"

def ValidationStep.lines : ValidationStep → List String
  | .cast fields => ["    |> cast(params, " ++ listOf (fields.map atom) ++ ")"]
  | .require fields => ["    |> validate_required(" ++ listOf (fields.map atom) ++ ")"]
  | .check field checks => checks.map (BoundCheck.line (atom field))

namespace RecordFile

def primaryKeyLine (f : RecordFile) : String :=
  "  @primary_key \x7b" ++ f.primaryKeyAtom ++
    match f.primaryKey with
    | .sortableId =>
      ", :string, autogenerate: \x7b" ++ f.runtimeModule ++ ".TID, :generate, []\x7d\x7d"
    | .sequentialInteger => ", :id, autogenerate: true\x7d"

/-- The column of a field. -/
def columnLine (f : FieldText) : String :=
  "    field " ++ f.atom ++ ", " ++ f.columnType ++
    (match f.default with
    | some default => ", default: " ++ default
    | none => "") ++
    if f.isVirtual then ", virtual: true" else ""

def changesetLines (f : RecordFile) : List String :=
  if f.validation.isEmpty then
    ["  def changeset(record, _params \\\\ %\x7b\x7d), do: change(record)"]
  else
    ["  def changeset(record, params \\\\ %\x7b\x7d) do", "    record"] ++
      f.validation.flatMap ValidationStep.lines ++ ["  end"]

def text (f : RecordFile) : String :=
  unlines <|
    header (some f.nsid) ++ ["defmodule " ++ f.moduleName ++ " do"] ++ moduleDoc f.description ++
      ["  use Ecto.Schema", "  import Ecto.Changeset", "", f.primaryKeyLine,
        "  schema " ++ quoted f.source ++ " do"] ++
      f.fields.map columnLine ++
      ["  end", "", "  @type t :: %__MODULE__\x7b\x7d", "",
        "  @spec changeset(t(), map()) :: Ecto.Changeset.t()"] ++
      f.changesetLines ++ ["end"]

def toJson (f : RecordFile) : Json :=
  Json.ofFields [
    ("nsid", some (.string f.nsid)),
    ("module", some (.string f.moduleName)),
    ("description", f.description.map .string),
    ("source", some (.string f.source)),
    ("primary_key", some (.string f.primaryKey.name)),
    ("primary_key_atom", some (.string f.primaryKeyAtom)),
    ("runtime_module", some (.string f.runtimeModule)),
    ("fields", some (.array (f.fields.map FieldText.toJson))),
    ("pipeline", some (.array (f.validation.map ValidationStep.toJson)))]

end RecordFile

end Lexgen.Emit
