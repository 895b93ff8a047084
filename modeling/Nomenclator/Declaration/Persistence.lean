import Nomenclator.Declaration.Site
import Nomenclator.Json.Record
import Nomenclator.TypeRef.Persistence

/-!
# Declaration sites as JSON texts

A declaration site is written as an object with all its fields. In reading, only the possible kinds
must be given.

Main definitions: `DeclarationSite.toJson` and `DeclarationSite.parse`.
-/

namespace Nomenclator

open Json Json.Reader

/-- Write a value or `null`. -/
def Json.ofOption {α : Type} (toJson : α → Json) : Option α → Json
  | none => .null
  | some a => toJson a

/-- A set of modifiers as a JSON list. -/
def ModifierSet.toJson (s : ModifierSet) : Json := .array (s.toList.map Identified.toJson)

/-- Read a list of modifiers as a set. -/
def ModifierSet.reader : Json.Reader ModifierSet := do
  let ms ← list member
  pure (.ofList ms)

namespace DeclarationSite

/-! ## Writing -/

/-- A declaration site as a JSON value. -/
def toJson (site : DeclarationSite) : Json :=
  .object
    [("possible_kinds".toList, .array (site.possibleKinds.map Identified.toJson)),
      ("modifiers".toList, site.modifiers.toJson),
      ("accessibility".toList, .ofOption Identified.toJson site.accessibility),
      ("type".toList, .ofOption TypeRef.toJson site.type),
      ("sibling_names".toList, .array (site.siblingNames.map .string)),
      ("has_name".toList, .boolean site.hasName)]

/-! ## Reading -/

/-- What has been read of a declaration site. -/
structure Draft where
  possibleKinds : Option (List SymbolKind) := none
  modifiers : Option ModifierSet := none
  accessibility : Option (Option Accessibility) := none
  type : Option (Option TypeRef) := none
  siblingNames : Option (List Text) := none
  hasName : Option Bool := none

namespace Draft

/-- The fields of a declaration site in their order. -/
def fields : List (Field Draft (Draft → Json.Reader Draft)) :=
  [fieldOf "possible_kinds" true (·.possibleKinds)
      (fun d a => { d with possibleKinds := some a }) (list member),
    fieldOf "modifiers" false (·.modifiers) (fun d a => { d with modifiers := some a })
      ModifierSet.reader,
    fieldOf "accessibility" false (·.accessibility)
      (fun d a => { d with accessibility := some a }) (optional member),
    fieldOf "type" false (·.type) (fun d a => { d with type := some a })
      (optional TypeRef.reader),
    fieldOf "sibling_names" false (·.siblingNames)
      (fun d a => { d with siblingNames := some a }) (list string),
    fieldOf "has_name" false (·.hasName) (fun d a => { d with hasName := some a }) boolean]

/-- The declaration site that was read. -/
def finish (d : Draft) : Except Mismatch DeclarationSite := do
  let possibleKinds ← required "possible_kinds" d.possibleKinds
  pure
    { possibleKinds
      modifiers := d.modifiers.getD .empty
      accessibility := d.accessibility.getD none
      type := d.type.getD none
      siblingNames := d.siblingNames.getD []
      hasName := d.hasName.getD false }

end Draft

/-- Read a declaration site. -/
def reader : Json.Reader DeclarationSite :=
  record "struct DeclarationContext" Draft.fields {} Draft.finish

/-- Read the text of a declaration site. -/
def parse (t : Text) : Except Fault DeclarationSite := document reader t

end DeclarationSite

end Nomenclator
