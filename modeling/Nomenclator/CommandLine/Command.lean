import Nomenclator.Symbol.Basic
import Nomenclator.Text.Terminal

/-!
# Commands

What the program can be asked to do, and what can be wrong with the arguments that ask for it. Asking
for help or for the version is answered at once and runs no command.
-/

namespace Nomenclator

/-- What the program is asked to do. Files are given by their paths. -/
inductive Command
  /-- Suggest names at the declaration site described by a file, in plain lines or as JSON. -/
  | suggest (site : Text) (config : Option Text) (asJson : Bool)
  /-- Check the name of a symbol. -/
  | check (symbol : Symbol) (name : Text) (config : Option Text)
  /-- Print the rule set of a configuration. -/
  | rules (config : Option Text)
  deriving DecidableEq, Repr

namespace Command

/-- The path of the configuration. -/
def config : Command → Option Text
  | .suggest _ config _ => config
  | .check _ _ config => config
  | .rules config => config

/-- The paths of all files that the command reads. -/
def paths (c : Command) : List Text :=
  c.config.toList ++ match c with
    | .suggest site _ _ => [site]
    | _ => []

end Command

/-- The version of the program. -/
def programVersion : String := "0.1.0"

/-- Why arguments are no command. -/
inductive UsageError
  /-- There are no arguments, which asks for help too. -/
  | nothingAsked
  | helpAsked
  | versionAsked
  | missingArgument
  | unknownArgument
  | unknownCommand
  | repeatedOption
  /-- A value of an option does not resolve. -/
  | invalidValue (option : String) (value : Text) (reason : Text)
  /-- A value is missing, or is empty where it must not be. -/
  | emptyValue
  /-- A value is attached to an option that takes none. -/
  | unexpectedValue
  deriving DecidableEq, Repr

namespace UsageError

/-- The exit code of the program. -/
def exitCode : UsageError → Nat
  | .helpAsked | .versionAsked => 0
  | _ => 2

/-- What the program says of a value that does not resolve. The value and the option are set off, so
a control sequence that a value leaves open does not reach beyond it. -/
def invalidValueMessage (option : String) (value reason : Text) : Text :=
  "error: invalid value '".toList ++ Terminal.plain value ++ "' for '".toList ++ option.toList
    ++ Terminal.plain ("': ".toList ++ reason ++ "\n\nFor more information, try '".toList)
    ++ "--help'.".toList

/-- What the program says. -/
def message : UsageError → Text
  | .versionAsked => "namewright ".toList ++ programVersion.toList
  | .nothingAsked | .helpAsked =>
    "Usage: namewright suggest <CONTEXT.json> | check --kind <KIND> --name <NAME> | rules".toList
  | .missingArgument => "error: a required argument was not provided".toList
  | .unknownArgument => "error: unexpected argument found".toList
  | .unknownCommand => "error: unrecognized subcommand".toList
  | .repeatedOption => "error: an option cannot be used multiple times".toList
  | .invalidValue option value reason => invalidValueMessage option value reason
  | .emptyValue => "error: a value is required but none was supplied".toList
  | .unexpectedValue => "error: unexpected value found".toList

end UsageError

end Nomenclator
