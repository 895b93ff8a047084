import Nomenclator.CommandLine.Command
import Nomenclator.Declaration.Persistence
import Nomenclator.Rules.Persistence
import Nomenclator.Suggestion.Completion
import Nomenclator.Text.Wrapping

/-!
# Running commands

A command reads files and prints a text, or fails with a message. The configuration is read before
anything else; without one no rule governs anything and suggestions are on.

Main definition: `Command.run`.
-/

namespace Nomenclator

/-! ## Failures -/

/-- Why a file cannot be read as a text. -/
inductive FileFault
  | notFound
  | notPermitted
  /-- A step of the path that leads on is no directory. -/
  | notDirectory
  | isDirectory
  | nameTooLong
  /-- The path has a character in it that ends a name for the system. -/
  | nulInName
  | notUtf8
  /-- Anything else, in the words of the system. -/
  | other (reason : Text)
  deriving DecidableEq, Repr

namespace FileFault

/-- The reason in words, with the number that the system has for it. -/
def reason : FileFault → Text
  | .notFound => "No such file or directory (os error 2)".toList
  | .notPermitted => "Permission denied (os error 13)".toList
  | .notDirectory => "Not a directory (os error 20)".toList
  | .isDirectory => "Is a directory (os error 21)".toList
  | .nameTooLong => "File name too long (os error 36)".toList
  | .nulInName => "file name contained an unexpected NUL byte".toList
  | .notUtf8 => "stream did not contain valid UTF-8".toList
  | .other reason => reason

/-- The fault that the system has a number for. -/
def ofNumber? : Nat → Option FileFault
  | 2 => some .notFound
  | 13 => some .notPermitted
  | 20 => some .notDirectory
  | 21 => some .isDirectory
  | 36 => some .nameTooLong
  | _ => none

end FileFault

/-- Why a command fails. -/
inductive Failure
  | unreadableConfig (path : Text) (fault : FileFault)
  | inconsistentConfig (error : RuleSetError)
  | unreadableSite (path : Text) (fault : FileFault)
  | malformedSite (path : Text) (fault : Json.Fault)
  deriving DecidableEq, Repr

namespace Failure

/-- The width of a report. -/
def reportWidth : Nat := 78

/-- A failure with its code and its cause, one below the other. -/
def report (code : String) (title : Text) (cause : Option Text) : Text :=
  let cause := match cause with
    | none => []
    | some cause =>
      Text.wrap "  ╰─▶ ".toList "      ".toList reportWidth cause ++ ['\n']
  code.toList ++ "\n\n".toList
    ++ Text.wrap "  × ".toList "  │ ".toList reportWidth title ++ ['\n'] ++ cause

/-- The code of an inconsistency between rules. -/
def code : RuleSetError → String
  | .duplicateSpecification _ => "namewright::preferences::duplicate_specification"
  | .duplicateStyle _ => "namewright::preferences::duplicate_style"
  | .unknownSpecification _ _ => "namewright::preferences::unknown_specification"
  | .unknownStyle _ _ => "namewright::preferences::unknown_style"

/-- What the program says. -/
def message : Failure → Text
  | .unreadableConfig path fault =>
    report "namewright::config::io"
      ("cannot read naming configuration '".toList ++ path ++ ['\'']) (some fault.reason)
  | .inconsistentConfig error => report (code error) error.message none
  | .unreadableSite path fault =>
    "Error reading '".toList ++ path ++ "': ".toList ++ fault.reason
  | .malformedSite path fault =>
    "Error parsing declaration context '".toList ++ path ++ "': ".toList ++ fault.message

end Failure

/-! ## Outcomes -/

/-- What a command that does not fail comes to. -/
structure CommandOutcome where
  output : Text
  /-- The exit code of the program. -/
  exitCode : Nat := 0
  deriving DecidableEq, Repr

/-- A line of output. -/
def asLine (t : Text) : Text := t ++ ['\n']

/-- A name between backquotes. -/
def backquoted (t : Text) : Text := '`' :: (t ++ ['`'])

/-- The rule and the style that govern a name, in words. -/
def describeRule (ruleName styleName : Text) : Text :=
  "rule ".toList ++ backquoted ruleName ++ " (style ".toList ++ backquoted styleName ++ [')']

/-- A candidate on a line of its own. -/
def Candidate.describe (c : Candidate) : Text :=
  c.text ++ '\t' :: c.kind.canonical.toList

/-- A violation in words, with the names to use instead if there are any. -/
def Violation.describe (v : Violation) : Text :=
  let fixes :=
    if v.fixes.isEmpty then []
    else asLine ("  suggested: ".toList ++ Text.joinWith ", ".toList v.fixes)
  asLine (v.severity.canonical.toList ++ ": ".toList ++ backquoted v.name
    ++ " violates ".toList ++ describeRule v.ruleName v.styleName) ++ fixes

/-! ## Commands -/

/-- How files are read. -/
abbrev ReadFile := Text → Except FileFault Text

/-- The configuration at a path, or the default one. -/
def loadConfig (files : ReadFile) (draw : Nat → Uuid) :
    Option Text → Except Failure NamingConfig
  | none => .ok {}
  | some path =>
    match files path with
    | .error fault => .error (.unreadableConfig path fault)
    | .ok t => (NamingConfig.read draw t).1.mapError .inconsistentConfig

/-- The declaration site at a path. -/
def loadSite (files : ReadFile) (path : Text) : Except Failure DeclarationSite :=
  match files path with
  | .error fault => .error (.unreadableSite path fault)
  | .ok t => (DeclarationSite.parse t).mapError (.malformedSite path)

/-- The candidates of a site as a text. -/
def describeCandidates (asJson : Bool) (candidates : List Candidate) : Text :=
  if asJson then asLine ((Json.array (candidates.map Candidate.toJson)).render .indented)
  else candidates.flatMap fun c => asLine c.describe

/-- The outcome of checking a name. -/
def NamingConfig.check (config : NamingConfig) (symbol : Symbol) (name : Text) :
    CommandOutcome :=
  match config.rules.governingRule? symbol with
  | none => { output := asLine ("no naming rule applies to ".toList ++ symbol.describe) }
  | some rule =>
    match config.rules.checkName symbol name with
    | none =>
      { output := asLine (backquoted name ++ " follows ".toList
          ++ describeRule rule.specification.name rule.style.name) }
    | some violation => { output := violation.describe, exitCode := 1 }

/-- Run a command, with ids drawn for what the configuration describes. -/
def Command.run (files : ReadFile) (draw : Nat → Uuid) :
    Command → Except Failure CommandOutcome
  | .suggest site config asJson => do
    let config ← loadConfig files draw config
    let site ← loadSite files site
    let candidates := ((Completion.ofConfig config).provide site).1
    pure { output := describeCandidates asJson candidates }
  | .check symbol name config => do
    let config ← loadConfig files draw config
    pure (config.check symbol name)
  | .rules config => do
    let config ← loadConfig files draw config
    pure { output := asLine config.rules.render }

end Nomenclator
