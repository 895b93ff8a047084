import Nomenclator.CommandLine.Command
import Nomenclator.Vocabulary.Accessibility

/-!
# Reading arguments

The first argument names a command, and the others are its options and, for one command, a path. An
option is written `--name value` or `--name=value`. Behind a lone `--` every argument is a path.

A value that stands apart from its option is only looked at when the next argument has been
recognised, so an unknown argument behind it is reported first.

Main definition: `Command.ofArguments`.
-/

namespace Nomenclator

namespace Arguments

/-! ## Options -/

/-- What takes a value. -/
inductive Parameter
  | site
  | config
  | kind
  | name
  | visibility
  | modifiers
  deriving DecidableEq, Repr

/-- What an option does. -/
inductive Effect
  | takes (p : Parameter)
  | json
  | help
  deriving DecidableEq, Repr

/-- The commands that can be named. -/
inductive Verb
  | suggest
  | check
  | rules
  deriving DecidableEq, Repr

/-- The command with this name. -/
def Verb.ofName? (name : Text) : Option Verb :=
  if name = "suggest".toList then some .suggest
  else if name = "check".toList then some .check
  else if name = "rules".toList then some .rules
  else none

/-- The options of a command by their long names. -/
def Verb.options : Verb → List (String × Effect)
  | .suggest => [("config", .takes .config), ("json", .json), ("help", .help)]
  | .check =>
    [("kind", .takes .kind), ("name", .takes .name), ("visibility", .takes .visibility),
      ("modifiers", .takes .modifiers), ("config", .takes .config), ("help", .help)]
  | .rules => [("config", .takes .config), ("help", .help)]

/-- The option of a command with this long name. -/
def Verb.option? (verb : Verb) (name : Text) : Option Effect :=
  (verb.options.find? fun entry => entry.1.toList == name).map (·.2)

/-- How an argument is written. -/
inductive Form
  /-- A lone `--`. -/
  | escape
  /-- An option with its long name and perhaps a value. -/
  | long (name : Text) (value : Option Text)
  /-- An option with a short name, which is one letter. -/
  | short (letter : Char)
  /-- Anything else. -/
  | plain
  deriving DecidableEq, Repr

/-- The form of an argument. A lone `-` is plain. -/
def Form.of : Text → Form
  | ['-', '-'] => .escape
  | '-' :: '-' :: t =>
    match Text.splitOnce? '=' t with
    | none => .long t none
    | some (name, value) => .long name (some value)
  | '-' :: c :: _ => .short c
  | _ => .plain

/-! ## Values -/

/-- The values read so far. -/
structure Draft where
  site : Option Text := none
  config : Option Text := none
  kind : Option SymbolKind := none
  name : Option Text := none
  visibility : Option Accessibility := none
  modifiers : List Modifier := []
  json : Bool := false

namespace Draft

/-- The parameter has a value and must not have another. -/
def isSettled (d : Draft) : Parameter → Bool
  | .site => d.site.isSome
  | .config => d.config.isSome
  | .kind => d.kind.isSome
  | .name => d.name.isSome
  | .visibility => d.visibility.isSome
  | .modifiers => false

/-- A value that must be a token of a vocabulary. -/
def resolve {α : Type} [Vocabulary α] (option what : String) (value : Text) :
    Except UsageError α :=
  match Vocabulary.lookup? value with
  | some a => .ok a
  | none =>
    .error (.invalidValue option value
      ("unknown ".toList ++ what.toList ++ " `".toList ++ value ++ ['`']))

/-- A value that must be a path. -/
def path (value : Text) : Except UsageError Text :=
  if value.isEmpty then .error .emptyValue else .ok value

/-- Give a parameter a value. -/
def set (d : Draft) (p : Parameter) (value : Text) : Except UsageError Draft :=
  if d.isSettled p then .error .repeatedOption
  else
    match p with
    | .site => do pure { d with site := some (← path value) }
    | .config => do pure { d with config := some (← path value) }
    | .kind => do
      pure { d with kind := some (← resolve "--kind <KIND>" "symbol kind" value) }
    | .name => .ok { d with name := some value }
    | .visibility => do
      pure
        { d with visibility := some (← resolve "--visibility <VISIBILITY>" "visibility" value) }
    | .modifiers => do
      let ms ← (Text.splitOn ',' value).mapM (resolve "--modifiers <MODIFIERS>" "modifier")
      pure { d with modifiers := d.modifiers ++ ms }

end Draft

/-! ## Scanning -/

/-- How far the scan of the arguments is. -/
structure State where
  draft : Draft := {}
  /-- A parameter whose value is not yet given, or is given and not yet looked at. -/
  pending : Option (Parameter × Option Text) := none
  /-- A path has been given. -/
  hasPath : Bool := false

namespace State

/-- Look at the pending value. -/
def settle (s : State) : Except UsageError State :=
  match s.pending with
  | none => .ok s
  | some (_, none) => .error .emptyValue
  | some (p, some value) => do pure { s with draft := ← s.draft.set p value, pending := none }

/-- Take an argument that is no option: the pending parameter waits for it, or it is a path. -/
def takePlain (s : State) (verb : Verb) (isEscaped : Bool) (argument : Text) :
    Except UsageError State :=
  match s.pending, isEscaped with
  | some (p, none), false => .ok { s with pending := some (p, some argument) }
  | _, _ =>
    if verb = .suggest ∧ !s.hasPath then do
      let s ← s.settle
      pure { s with pending := some (.site, some argument), hasPath := true }
    else .error .unknownArgument

/-- Take an option with its long name. -/
def takeLong (s : State) (verb : Verb) (name : Text) (value : Option Text) :
    Except UsageError State :=
  match verb.option? name, value with
  | none, _ => .error .unknownArgument
  | some (.takes p), none => do
    let s ← s.settle
    pure { s with pending := some (p, none) }
  | some (.takes p), some value => do
    let s ← s.settle
    pure { s with draft := ← s.draft.set p value }
  | some _, some _ => .error .unexpectedValue
  | some .help, none => do
    let _ ← s.settle
    .error .helpAsked
  | some .json, none => do
    let s ← s.settle
    if s.draft.json then .error .repeatedOption
    else pure { s with draft := { s.draft with json := true } }

/-- Take an option with a short name. There is only one. -/
def takeShort (s : State) (letter : Char) : Except UsageError State :=
  if letter = 'h' then do
    let _ ← s.settle
    .error .helpAsked
  else .error .unknownArgument

/-- Take the arguments of a command. -/
def scan (verb : Verb) (isEscaped : Bool) (s : State) : List Text → Except UsageError State
  | [] => s.settle
  | argument :: arguments => do
    match isEscaped, Form.of argument with
    | false, .escape => scan verb true s arguments
    | false, .long name value => scan verb false (← s.takeLong verb name value) arguments
    | false, .short letter => scan verb false (← s.takeShort letter) arguments
    | isEscaped, _ => scan verb isEscaped (← s.takePlain verb isEscaped argument) arguments

end State

/-- The command that was asked for, unless it lacks a value. -/
def Draft.finish (d : Draft) : Verb → Except UsageError Command
  | .suggest =>
    match d.site with
    | some site => .ok (.suggest site d.config d.json)
    | none => .error .missingArgument
  | .check =>
    match d.kind, d.name with
    | some kind, some name =>
      let symbol : Symbol :=
        { kind, accessibility := d.visibility, modifiers := .ofList d.modifiers }
      .ok (.check symbol name d.config)
    | _, _ => .error .missingArgument
  | .rules => .ok (.rules d.config)

/-- What is wrong with a request for help on commands: that is given if they can be named. -/
def helpOn : List Text → UsageError
  | [] => .helpAsked
  | [name] =>
    if (Verb.ofName? name).isSome ∨ name = "help".toList then .helpAsked else .unknownCommand
  | _ => .unknownCommand

/-- What is wrong with a first argument that names no command. -/
def withoutCommand (argument : Text) : UsageError :=
  match Form.of argument with
  | .long name value =>
    if name = "help".toList then if value.isSome then .unexpectedValue else .helpAsked
    else if name = "version".toList then
      if value.isSome then .unexpectedValue else .versionAsked
    else .unknownArgument
  | .short letter =>
    if letter = 'h' then .helpAsked
    else if letter = 'V' then .versionAsked
    else .unknownArgument
  | _ => .unknownCommand

/-- What is wrong with arguments behind a `--` in the place of a command. -/
def escapedCommand : List Text → UsageError
  | [] => .nothingAsked
  | name :: _ =>
    if (Verb.ofName? name).isSome ∨ name = "help".toList then .unknownArgument
    else .unknownCommand

end Arguments

open Arguments in
/-- The command that the arguments ask for. -/
def Command.ofArguments : List Text → Except UsageError Command
  | [] => .error .nothingAsked
  | first :: rest =>
    match Verb.ofName? first with
    | some verb => do
      let s ← State.scan verb false {} rest
      s.draft.finish verb
    | none =>
      if first = "help".toList then .error (helpOn rest)
      else if Form.of first = .escape then .error (escapedCommand rest)
      else .error (withoutCommand first)

end Nomenclator
