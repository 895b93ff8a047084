import Nomenclator.Json.Printer
import Nomenclator.Json.Record
import Nomenclator.Rules.RuleSet
import Nomenclator.Vocabulary.Identifiers

/-!
# Rule sets as JSON texts

A rule set is written as an object of three lists: specifications, styles and rules. Their order is
kept, and every field is written. In reading, lists of choices, affixes and severities may be left
out; ids that are repeated or refer to nothing are rejected like anywhere else.

Main definitions: `RuleSet.render` and `RuleSet.parse`.
-/

namespace Nomenclator

open Json.Reader

/-! ## Identifiers -/

/-- An identifier as a JSON value. -/
def Uuid.toJson (id : Uuid) : Json := .string id.render

/-- The identifier that a text spells, or the complaint that it spells none. -/
def Uuid.resolve (t : Text) : Except Json.Mismatch Uuid :=
  match Uuid.parse? t with
  | some id => .ok id
  | none => .error .invalidUuid

/-- Read an identifier. -/
def Uuid.reader : Json.Reader Uuid := stringAs "a formatted UUID string" Uuid.resolve

/-- A list of vocabulary members as a JSON value. -/
def Identified.listToJson {α : Type} [Identified α] (l : List α) : Json :=
  .array (l.map Identified.toJson)

/-! ## Specifications -/

/-- What has been read of a specification. -/
structure SpecificationDraft where
  id : Option Uuid := none
  name : Option Text := none
  kinds : Option (List SymbolKind) := none
  accessibilities : Option (List Accessibility) := none
  requiredModifiers : Option (List Modifier) := none

namespace SpecificationDraft

/-- The fields of a specification in their order. -/
def fields :
    List (Json.Field SpecificationDraft (SpecificationDraft → Json.Reader SpecificationDraft)) :=
  [fieldOf "id" true (·.id) (fun d a => { d with id := some a }) Uuid.reader,
    fieldOf "name" true (·.name) (fun d a => { d with name := some a }) string,
    fieldOf "applicable_kinds" false (·.kinds) (fun d a => { d with kinds := some a })
      (list member),
    fieldOf "applicable_accessibilities" false (·.accessibilities)
      (fun d a => { d with accessibilities := some a }) (list member),
    fieldOf "required_modifiers" false (·.requiredModifiers)
      (fun d a => { d with requiredModifiers := some a }) (list member)]

/-- The specification that was read. -/
def finish (d : SpecificationDraft) : Except Json.Mismatch Specification := do
  let id ← Json.required "id" d.id
  let name ← Json.required "name" d.name
  pure
    { id, name
      kinds := d.kinds.getD []
      accessibilities := d.accessibilities.getD []
      requiredModifiers := d.requiredModifiers.getD [] }

end SpecificationDraft

namespace Specification

/-- Read a specification. -/
def reader : Json.Reader Specification :=
  record "struct SymbolSpecification" SpecificationDraft.fields {} SpecificationDraft.finish

/-- What a specification chooses by, as members of a JSON object. -/
def choices (s : Specification) : List (Text × Json) :=
  [("name".toList, .string s.name),
    ("applicable_kinds".toList, Identified.listToJson s.kinds),
    ("applicable_accessibilities".toList, Identified.listToJson s.accessibilities),
    ("required_modifiers".toList, Identified.listToJson s.requiredModifiers)]

/-- A specification as a JSON value. -/
def toJson (s : Specification) : Json := .object (("id".toList, s.id.toJson) :: s.choices)

end Specification

/-! ## Styles -/

/-- What has been read of a style. -/
structure StyleDraft where
  id : Option Uuid := none
  name : Option Text := none
  capitalization : Option Capitalization := none
  requiredPrefix : Option Text := none
  requiredSuffix : Option Text := none
  wordSeparator : Option Text := none

namespace StyleDraft

/-- The fields of a style in their order. -/
def fields : List (Json.Field StyleDraft (StyleDraft → Json.Reader StyleDraft)) :=
  [fieldOf "id" true (·.id) (fun d a => { d with id := some a }) Uuid.reader,
    fieldOf "name" true (·.name) (fun d a => { d with name := some a }) string,
    fieldOf "capitalization" true (·.capitalization)
      (fun d a => { d with capitalization := some a }) member,
    fieldOf "prefix" false (·.requiredPrefix) (fun d a => { d with requiredPrefix := some a })
      string,
    fieldOf "suffix" false (·.requiredSuffix) (fun d a => { d with requiredSuffix := some a })
      string,
    fieldOf "word_separator" false (·.wordSeparator)
      (fun d a => { d with wordSeparator := some a }) string]

/-- The style that was read. -/
def finish (d : StyleDraft) : Except Json.Mismatch Style := do
  let id ← Json.required "id" d.id
  let name ← Json.required "name" d.name
  let capitalization ← Json.required "capitalization" d.capitalization
  pure
    { id, name, capitalization
      requiredPrefix := d.requiredPrefix.getD []
      requiredSuffix := d.requiredSuffix.getD []
      wordSeparator := d.wordSeparator.getD [] }

end StyleDraft

namespace Style

/-- Read a style. -/
def reader : Json.Reader Style :=
  record "struct NamingStyle" StyleDraft.fields {} StyleDraft.finish

/-- What a style makes of words, as members of a JSON object. -/
def appearance (s : Style) : List (Text × Json) :=
  [("name".toList, .string s.name),
    ("capitalization".toList, Identified.toJson s.capitalization),
    ("prefix".toList, .string s.requiredPrefix),
    ("suffix".toList, .string s.requiredSuffix),
    ("word_separator".toList, .string s.wordSeparator)]

/-- A style as a JSON value. -/
def toJson (s : Style) : Json := .object (("id".toList, s.id.toJson) :: s.appearance)

end Style

/-! ## Rules -/

/-- What has been read of a rule. -/
structure RuleDraft where
  specificationId : Option Uuid := none
  styleId : Option Uuid := none
  severity : Option Severity := none

namespace RuleDraft

/-- The fields of a rule in their order. -/
def fields : List (Json.Field RuleDraft (RuleDraft → Json.Reader RuleDraft)) :=
  [fieldOf "specification_id" true (·.specificationId)
      (fun d a => { d with specificationId := some a }) Uuid.reader,
    fieldOf "style_id" true (·.styleId) (fun d a => { d with styleId := some a }) Uuid.reader,
    fieldOf "severity" false (·.severity) (fun d a => { d with severity := some a }) member]

/-- The rule that was read. -/
def finish (d : RuleDraft) : Except Json.Mismatch Rule := do
  let specificationId ← Json.required "specification_id" d.specificationId
  let styleId ← Json.required "style_id" d.styleId
  pure { specificationId, styleId, severity := d.severity.getD default }

end RuleDraft

namespace Rule

/-- Read a rule. -/
def reader : Json.Reader Rule := record "struct NamingRule" RuleDraft.fields {} RuleDraft.finish

/-- A rule as a JSON value. -/
def toJson (r : Rule) : Json :=
  .object
    [("specification_id".toList, r.specificationId.toJson),
      ("style_id".toList, r.styleId.toJson),
      ("severity".toList, Identified.toJson r.severity)]

end Rule

/-! ## Rule sets -/

/-- The lists of a rule set, which may not fit together. -/
structure RuleLists where
  specifications : List Specification
  styles : List Style
  rules : List Rule
  deriving DecidableEq

/-- What has been read of the lists. -/
structure RuleListsDraft where
  specifications : Option (List Specification) := none
  styles : Option (List Style) := none
  rules : Option (List Rule) := none

namespace RuleListsDraft

/-- The lists in their order. -/
def fields : List (Json.Field RuleListsDraft (RuleListsDraft → Json.Reader RuleListsDraft)) :=
  [fieldOf "specifications" true (·.specifications)
      (fun d a => { d with specifications := some a }) (list Specification.reader),
    fieldOf "styles" true (·.styles) (fun d a => { d with styles := some a })
      (list Style.reader),
    fieldOf "rules" true (·.rules) (fun d a => { d with rules := some a }) (list Rule.reader)]

/-- The lists that were read. -/
def finish (d : RuleListsDraft) : Except Json.Mismatch RuleLists := do
  let specifications ← Json.required "specifications" d.specifications
  let styles ← Json.required "styles" d.styles
  let rules ← Json.required "rules" d.rules
  pure { specifications, styles, rules }

end RuleListsDraft

/-- Read the lists of a rule set. -/
def RuleLists.reader : Json.Reader RuleLists :=
  record "struct SerializedPreferences" RuleListsDraft.fields {} RuleListsDraft.finish

/-- Why a text is no rule set. -/
inductive RuleSetFault
  | text (fault : Json.Fault)
  | lists (error : RuleSetError)
  deriving DecidableEq

namespace RuleSet

/-- A rule set as a JSON value. -/
def toJson (p : RuleSet) : Json :=
  .object
    [("specifications".toList, .array (p.specifications.map Specification.toJson)),
      ("styles".toList, .array (p.styles.map Style.toJson)),
      ("rules".toList, .array (p.rules.map Rule.toJson))]

/-- The text of a rule set. -/
def render (p : RuleSet) : Text := p.toJson.render .indented

/-- Read the text of a rule set. -/
def parse (t : Text) : Except RuleSetFault RuleSet :=
  match document RuleLists.reader t with
  | .error fault => .error (.text fault)
  | .ok l => (ofLists l.specifications l.styles l.rules).mapError .lists

end RuleSet

end Nomenclator
