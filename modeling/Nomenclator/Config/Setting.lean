import Nomenclator.Distinct
import Nomenclator.Unicode.WhiteSpace

/-!
# Settings of a naming configuration

A naming configuration is a text of lines `key = value`. Comments, section headers and blank lines
are passed over, and so are keys that have nothing to do with naming. Keys are compared without
regard to ASCII case and may start with `dotnet_`; white space around keys and values is dropped.

Three families of keys describe rules, choices of symbols and styles. Each key names a group of its
family and a property of the group.

Main definitions: `Line.read` reads one line, and `Settings.ofText` reads all of them.
-/

namespace Nomenclator.Config

/-! ## Keys -/

/-- The properties of a rule group. A property that no rule has still mentions the group. -/
inductive RuleProperty
  | symbols
  | style
  | severity
  | other
  deriving DecidableEq, Repr

/-- The properties of a symbols group. -/
inductive SymbolsProperty
  | kinds
  | accessibilities
  | modifiers
  deriving DecidableEq, Repr

/-- The properties of a style group. -/
inductive StyleProperty
  | capitalization
  | requiredPrefix
  | requiredSuffix
  | wordSeparator
  deriving DecidableEq, Repr

/-- A key that describes naming rules: a property of a group of a family. -/
inductive Key
  | rule (group : Text) (property : RuleProperty)
  | symbols (group : Text) (property : SymbolsProperty)
  | style (group : Text) (property : StyleProperty)
  deriving DecidableEq, Repr

/-- The property of a rule group by its name. -/
def RuleProperty.ofName (name : Text) : RuleProperty :=
  if name = "symbols".toList then .symbols
  else if name = "style".toList then .style
  else if name = "severity".toList then .severity
  else .other

/-- The property of a symbols group by its name. -/
def SymbolsProperty.ofName? (name : Text) : Option SymbolsProperty :=
  if name = "applicable_kinds".toList then some .kinds
  else if name = "applicable_accessibilities".toList then some .accessibilities
  else if name = "required_modifiers".toList then some .modifiers
  else none

/-- The property of a style group by its name. -/
def StyleProperty.ofName? (name : Text) : Option StyleProperty :=
  if name = "capitalization".toList then some .capitalization
  else if name = "required_prefix".toList then some .requiredPrefix
  else if name = "required_suffix".toList then some .requiredSuffix
  else if name = "word_separator".toList then some .wordSeparator
  else none

/-- The key that a normalized text names: family, group and property with dots between them. The
property is all that follows the second dot. -/
def Key.parse? (t : Text) : Option Key :=
  (Text.splitOnce? '.' t).bind fun (family, rest) =>
    (Text.splitOnce? '.' rest).bind fun (group, property) =>
      if family = "naming_rule".toList then some (.rule group (.ofName property))
      else if family = "naming_symbols".toList then
        (SymbolsProperty.ofName? property).map (.symbols group)
      else if family = "naming_style".toList then
        (StyleProperty.ofName? property).map (.style group)
      else none

/-- The key as it is compared: no white space around it, small letters, no `dotnet_` in front. -/
def normalizeKey (t : Text) : Text :=
  let small := Text.lowerAscii (Unicode.trim t)
  (Text.dropPrefix? "dotnet_".toList small).getD small

/-! ## Lines -/

/-- What a line says. -/
inductive Line
  /-- Nothing about naming. -/
  | silent
  /-- Nothing, for want of an equals sign. -/
  | unassigned
  /-- Whether names are suggested. -/
  | showNameSuggestions (value : Text)
  /-- The value of a key. -/
  | setting (key : Key) (value : Text)
  deriving DecidableEq, Repr

/-- The line is blank, a comment or a section header. -/
def isPassedOver : Text → Bool
  | [] => true
  | c :: _ => c == '#' || c == ';' || c == '['

/-- Read a line. -/
def Line.read (line : Text) : Line :=
  let line := Unicode.trim line
  if isPassedOver line then .silent
  else
    match Text.splitOnce? '=' line with
    | none => .unassigned
    | some (key, value) =>
      let key := normalizeKey key
      let value := Unicode.trim value
      if key = "show_name_suggestions".toList then .showNameSuggestions value
      else
        match Key.parse? key with
        | none => .silent
        | some key => .setting key value

/-! ## Warnings -/

/-- What the reader of a configuration passes over with a warning. -/
inductive Warning
  | unassignedLine (line : Nat)
  | notBoolean (line : Nat) (value : Text)
  | ruleWithoutSymbols (rule : Text)
  | ruleWithoutStyle (rule : Text)
  | unknownCapitalization (rule style : Text)
  | unknownSeverity (rule severity : Text)
  deriving DecidableEq, Repr

/-- The wording of a warning. -/
def Warning.message : Warning → String
  | .unassignedLine _ => "ignoring line without `=`"
  | .notBoolean _ _ => "ignoring non-boolean show_name_suggestions"
  | .ruleWithoutSymbols _ => "dropping naming rule without a `symbols` key"
  | .ruleWithoutStyle _ => "dropping naming rule without a `style` key"
  | .unknownCapitalization _ _ => "dropping naming rule: style has no known capitalization"
  | .unknownSeverity _ _ => "unknown severity; using suggestion"

/-! ## All lines -/

/-- What the lines of a configuration say together, in the order of the lines. -/
structure Settings where
  /-- The last truth value given for the showing of suggestions. -/
  showNameSuggestions : Option Bool := none
  values : List (Key × Text) := []
  warnings : List Warning := []
  deriving DecidableEq, Repr

/-- The truth value that a text spells, in any ASCII case. -/
def truthValue? (t : Text) : Option Bool :=
  let small := Text.lowerAscii t
  if small = "true".toList then some true
  else if small = "false".toList then some false
  else none

namespace Settings

/-- Add what a line says; the number of the line is for warnings. -/
def add (s : Settings) (number : Nat) : Line → Settings
  | .silent => s
  | .unassigned => { s with warnings := s.warnings ++ [.unassignedLine number] }
  | .setting key value => { s with values := s.values ++ [(key, value)] }
  | .showNameSuggestions value =>
    match truthValue? value with
    | some b => { s with showNameSuggestions := some b }
    | none =>
      { s with warnings := s.warnings ++ [.notBoolean number (Text.lowerAscii value)] }

/-- Add what lines say, the first of which has the given number. -/
def addLines (s : Settings) (number : Nat) : List Text → Settings
  | [] => s
  | line :: lines => (s.add number (Line.read line)).addLines (number + 1) lines

/-- What the lines of a text say. -/
def ofText (t : Text) : Settings := addLines {} 1 (Text.lines t)

/-- The value on the last line of a key. -/
def value? (s : Settings) (key : Key) : Option Text := s.values.reverse.lookup key

/-- The rule group that a key mentions. -/
def ruleGroup? : Key × Text → Option Text
  | (.rule group _, _) => some group
  | _ => none

/-- The rule groups in the order in which they are first mentioned. -/
def ruleGroups (s : Settings) : List Text := distinct (s.values.filterMap ruleGroup?)

end Settings

end Nomenclator.Config
