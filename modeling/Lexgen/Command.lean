import Lexgen.Corpus
import Lexgen.Generator.Parallel
import Lexgen.Lexicon.Json
import Lexgen.Settings

namespace Lexgen.Command

/-- What a run of the command leaves behind. -/
structure Result where
  exitCode : Nat
  stdout : String := ""
  stderr : String := ""
  world : World

def versionText : String := "dobby-lexicon 0.1.0\n"

/-- The lines that explain how the command is used. -/
def helpLines : List String :=
  ["Usage: dobby-codegen [OPTIONS] [INPUT]...",
    "",
    "Options:",
    "  -o, --output <OUTPUT>                  Output directory for generated code",
    "  -d, --clean                            Delete the output directory before generating",
    "  -j, --jobs <JOBS>                      Number of documents processed in parallel",
    "      --runtime-module <RUNTIME_MODULE>  Module of the shared support code",
    "      --check-refs                       Warn about references to missing definitions",
    "      --print-ir                         Print the compiled lexicons as JSON",
    "  -v, --verbose...                       Verbose output, repeat for more",
    "  -c, --config <CONFIG>                  Path to a KDL config file",
    "  -h, --help                             Print help",
    "  -V, --version                          Print version"]

def helpText : String := Emit.unlines helpLines

/-- The settings of a run. -/
def settings (args : Arguments) : Action Settings := do
  let config ← Action.query (Inputs.discoverConfig · args.config)
  match Settings.resolve args config with
  | .ok s => return s
  | .error problem => throw (.config problem args.config)

/-- The settings of a run and the documents that they name. -/
def inputs (args : Arguments) : Action (Settings × List Path) := do
  let s ← settings args
  return (s, ← Action.expandInputs s.inputs)

/-- Loads the documents that are not malformed. -/
def loadAll : List Path → Action (List Lexicon)
  | [] => return []
  | p :: rest => do
    match ← Generator.load p with
    | .inl _ => loadAll rest
    | .inr lexicon => return lexicon :: (← loadAll rest)

/-- The compiled lexicons as JSON text. -/
def printedIr (lexicons : List Lexicon) : String :=
  (Json.array (lexicons.map Lexicon.toJson)).pretty 0 ++ "\n"

/-- Removes the output directory, which need not exist. -/
def clean (out : Path) : Action Unit := do
  let w ← get
  let (disk, result) := w.disk.removeDirectory out
  set { w with disk }
  match result with
  | .ok _ => Action.report [.removedOutput out]
  | .error .notFound => return ()
  | .error fault => throw (.io out fault)

/-- Reports the references of lexicons that lead nowhere. -/
def checkReferences (lexicons : List Lexicon) : Action Unit := do
  let unresolved := (Corpus.ofList lexicons).unresolved
  Action.report (unresolved.map fun (nsid, reference) => .unresolvedReference nsid reference)
  Action.report [.checkedReferences unresolved.length]

/-- Reports the documents that were left out. -/
def reportLeftOut (malformed : List (Path × Error)) : Action Unit :=
  if malformed.isEmpty then return ()
  else do
    Action.report (malformed.map fun (p, e) => .leftOut p e.message)
    Action.report [.someLeftOut malformed.length]

/-- Reports on the files of a run, after what is wrong with its documents. -/
def summarize (s : Settings) (report : Report) : Action Unit := do
  if s.checkRefs then checkReferences report.lexicons
  reportLeftOut report.malformed
  Action.report
    [.complete report.written.length report.lexicons.length report.empty.length s.output]

/-- Says in which order the workers go, for a number of jobs and a number of documents. -/
abbrev Scheduler := Nat → Nat → List Nat

/-- Writes the files of the documents. -/
def generateBy (scheduler : Scheduler) (s : Settings) (cores : Nat) (paths : List Path) :
    Action Report := do
  if s.clean then clean s.output
  let jobs := s.jobs.getD cores
  let report ← (Generator.mk s.runtimeModule).writeDocumentsBy (scheduler jobs paths.length) paths
    s.output jobs
  summarize s report
  return report

/-- Runs with the given arguments, and gives the text to print. -/
def performBy (scheduler : Scheduler) (args : Arguments) (cores : Nat) : Action String := do
  let (s, paths) ← inputs args
  Action.report [.foundDocuments paths.length]
  if s.printIr then return printedIr (← loadAll paths)
  let _ ← generateBy scheduler s cores paths
  return ""

/-- Whether an event is shown when `-v` is given a number of times. -/
def isShown (verbose : Nat) (e : Event) : Bool := e.level ≠ .debug || 0 < verbose

/-- What is shown of a run: its events, then its error. -/
def shownText (verbose : Nat) (events : List Event) (error : Option Error) : String :=
  Emit.unlines <|
    ((events.filter (isShown verbose)).map Event.line) ++
      (error.map fun e => "Error: " ++ e.message).toList

/-- Runs the command with the arguments after its name. Unless the number of jobs is set, as many
documents are worked on at a time as there are `cores`. -/
def runBy (scheduler : Scheduler) (cores : Nat) (argv : List String) (world : World) : Result :=
  match Arguments.parse argv with
  | .error .helpRequested => { exitCode := 0, stdout := helpText, world }
  | .error .versionRequested => { exitCode := 0, stdout := versionText, world }
  | .error _ => { exitCode := 2, stderr := "error: bad arguments; see --help\n", world }
  | .ok args =>
    match (performBy scheduler args cores).run.run world with
    | (.ok stdout, world) =>
      { exitCode := 0, stdout, stderr := shownText args.verbose world.events none, world }
    | (.error e, world) =>
      { exitCode := 1, stderr := shownText args.verbose world.events (some e), world }

/-- Runs the command with workers that take turns. -/
def run (cores : Nat) (argv : List String) (world : World) : Result :=
  runBy Generator.turns cores argv world

end Lexgen.Command
