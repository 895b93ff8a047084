import Nomenclator.Config.Setting
import Nomenclator.Rules.RuleSet

/-!
# From settings to a rule set

Every rule group becomes a rule, in the order in which the groups are first mentioned, unless it
lacks a symbols group, a style group, or a style with a known capitalization; then it is dropped
with a warning. A symbols group becomes a specification and a style group a style where the first
rule needs them; later rules share them. Ids are drawn as they are needed.

Main definition: `NamingConfig.read`.
-/

namespace Nomenclator

/-- What a configuration says about naming. -/
structure NamingConfig where
  rules : RuleSet := .empty
  showNameSuggestions : Bool := true
  deriving DecidableEq

namespace Config

/-- The specification that a symbols group describes. Keys that are absent leave lists empty. -/
def Settings.specification (s : Settings) (id : Uuid) (group : Text) : Specification where
  id
  name := group
  kinds := ((s.value? (.symbols group .kinds)).map Vocabulary.parseMembers).getD []
  accessibilities :=
    ((s.value? (.symbols group .accessibilities)).map Vocabulary.parseMembers).getD []
  requiredModifiers :=
    ((s.value? (.symbols group .modifiers)).map Modifier.parseRequired).getD []

/-- The style that a style group describes, if its capitalization is known. -/
def Settings.style? (s : Settings) (id : Uuid) (group : Text) : Option Style :=
  ((s.value? (.style group .capitalization)).bind Vocabulary.lookup?).map fun capitalization =>
    { id
      name := group
      capitalization
      requiredPrefix := (s.value? (.style group .requiredPrefix)).getD []
      requiredSuffix := (s.value? (.style group .requiredSuffix)).getD []
      wordSeparator := (s.value? (.style group .wordSeparator)).getD [] }

/-- The rules read so far, with what they refer to. -/
structure Draft where
  specifications : List Specification := []
  styles : List Style := []
  rules : List Rule := []
  warnings : List Warning := []

namespace Draft

/-- How many ids have been drawn. -/
def drawn (d : Draft) : Nat := d.specifications.length + d.styles.length

/-- The draft with another warning. -/
def warn (d : Draft) (w : Warning) : Draft := { d with warnings := d.warnings ++ [w] }

/-- The style of a group, added to the draft if no rule before needed it. -/
def withStyle? (d : Draft) (draw : Nat → Uuid) (s : Settings) (group : Text) :
    Option (Style × Draft) :=
  match d.styles.find? fun style => style.name = group with
  | some style => some (style, d)
  | none =>
    (s.style? (draw d.drawn) group).map fun style =>
      (style, { d with styles := d.styles ++ [style] })

/-- The specification of a group, added to the draft if no rule before needed it. -/
def withSpecification (d : Draft) (draw : Nat → Uuid) (s : Settings) (group : Text) :
    Specification × Draft :=
  match d.specifications.find? fun specification => specification.name = group with
  | some specification => (specification, d)
  | none =>
    let specification := s.specification (draw d.drawn) group
    (specification, { d with specifications := d.specifications ++ [specification] })

/-- The severity of a rule group, with a warning if it is given and not known. -/
def withSeverity (d : Draft) (s : Settings) (group : Text) : Severity × Draft :=
  match s.value? (.rule group .severity) with
  | none => (default, d)
  | some token =>
    match Vocabulary.lookup? token with
    | some severity => (severity, d)
    | none => (default, d.warn (.unknownSeverity group token))

/-- Add the rule of a group, or a warning why there is none. -/
def addRule (draw : Nat → Uuid) (s : Settings) (d : Draft) (group : Text) : Draft :=
  match s.value? (.rule group .symbols) with
  | none => d.warn (.ruleWithoutSymbols group)
  | some symbols =>
    match s.value? (.rule group .style) with
    | none => d.warn (.ruleWithoutStyle group)
    | some style =>
      match d.withStyle? draw s (Text.lowerAscii style) with
      | none => d.warn (.unknownCapitalization group (Text.lowerAscii style))
      | some (style, d) =>
        let (specification, d) := d.withSpecification draw s (Text.lowerAscii symbols)
        let (severity, d) := d.withSeverity s group
        { d with rules := d.rules ++ [⟨specification.id, style.id, severity⟩] }

/-- The draft of all rule groups. -/
def ofSettings (draw : Nat → Uuid) (s : Settings) : Draft :=
  s.ruleGroups.foldl (addRule draw s) {}

end Draft

end Config

namespace NamingConfig

/-- Read a configuration, drawing the ids `draw 0`, `draw 1`, … for what it describes. The warnings
on lines come first, then those on rules. -/
def read (draw : Nat → Uuid) (t : Text) : Except RuleSetError NamingConfig × List Config.Warning :=
  let settings := Config.Settings.ofText t
  let draft := Config.Draft.ofSettings draw settings
  let config := (RuleSet.ofLists draft.specifications draft.styles draft.rules).map fun rules =>
    { rules, showNameSuggestions := settings.showNameSuggestions.getD true }
  (config, settings.warnings ++ draft.warnings)

end NamingConfig

end Nomenclator
