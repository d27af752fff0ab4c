import Lexgen.Arguments
import Lexgen.Config

namespace Lexgen

/-- What the command line says, then what the configuration says, then the defaults. -/
structure Settings where
  inputs : List String
  output : Path
  clean : Bool
  /-- The number of workers; nothing leaves it to the machine. -/
  jobs : Option Nat
  runtimeModule : String
  checkRefs : Bool
  printIr : Bool
  deriving DecidableEq, Repr

namespace Settings

def defaultOutput : Path := ⟨"lib/lexicons"⟩

def defaultRuntimeModule : String := "Lexicon"

/-- Joins the command line with the configuration. Flags hold if either sets them, and inputs of
the command line replace those of the configuration. -/
def resolve (args : Arguments) (config : Option Config) : Except Config.Problem Settings :=
  let config := config.getD {}
  let inputs := if args.inputs.isEmpty then config.inputs else args.inputs
  if inputs.isEmpty then .error .noInputs
  else
    .ok {
      inputs
      output := (args.output <|> config.output).getD defaultOutput
      clean := args.clean || config.clean.getD false
      jobs := (args.jobs <|> config.jobs).map (max 1)
      runtimeModule := (args.runtimeModule <|> config.runtimeModule).getD defaultRuntimeModule
      checkRefs := args.checkRefs || config.checkRefs.getD false
      printIr := args.printIr
    }

end Settings

end Lexgen
