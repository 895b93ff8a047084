import Nomenclator.Rules.RuleSet

/-!
# Built-in conventions

The conventions that hold where no rule governs a symbol: camel case for fields, locals, parameters
and local functions, Pascal case for types, type parameters, properties and events, and `Get` with
Pascal case for methods. They suggest names; a name is never checked against them.

Main statement: `builtin_governs` says that the built-in rule set names every symbol in the style
that `builtinStyle` gives for its kind.
-/

namespace Nomenclator

/-- Plain camel case. -/
def camelStyle : Style where
  id := .ofNat 0x6e616d65777269676874000000010001
  name := "camelCase".toList
  capitalization := .camelCase

/-- Pascal case behind `Get`. -/
def getterStyle : Style where
  id := .ofNat 0x6e616d65777269676874000000010002
  name := "GetPascalCase".toList
  capitalization := .pascalCase
  requiredPrefix := "Get".toList

/-- Plain Pascal case. -/
def pascalStyle : Style where
  id := .ofNat 0x6e616d65777269676874000000010003
  name := "PascalCase".toList
  capitalization := .pascalCase

/-- The style for a kind of symbols by the built-in conventions. -/
def builtinStyle : SymbolKind → Style
  | .field | .localVariable | .parameter | .localFunction => camelStyle
  | .method => getterStyle
  | .property | .event | .typeParameter | .type _ => pascalStyle

/-- The symbols named in camel case. -/
def camelSpecification : Specification where
  id := .ofNat 0x6e616d65777269676874000000000001
  name := "fields, locals, parameters and local functions".toList
  kinds := [.field, .localVariable, .parameter, .localFunction]

/-- The symbols named behind `Get`. -/
def getterSpecification : Specification where
  id := .ofNat 0x6e616d65777269676874000000000002
  name := "methods".toList
  kinds := [.method]

/-- The symbols named in Pascal case. -/
def pascalSpecification : Specification where
  id := .ofNat 0x6e616d65777269676874000000000003
  name := "properties, events, types and type parameters".toList
  kinds :=
    [.property, .event, .typeParameter, .type .classType, .type .structType, .type .interfaceType,
      .type .enumType, .type .delegateType]

/-- The built-in conventions as a rule set. -/
def RuleSet.builtin : RuleSet where
  specifications := [camelSpecification, getterSpecification, pascalSpecification]
  styles := [camelStyle, getterStyle, pascalStyle]
  rules :=
    [⟨camelSpecification.id, camelStyle.id, .none⟩,
      ⟨getterSpecification.id, getterStyle.id, .none⟩,
      ⟨pascalSpecification.id, pascalStyle.id, .none⟩]
  references := [(0, 0), (1, 1), (2, 2)]
  specificationIds_nodup := by decide
  styleIds_nodup := by decide
  references_located := rfl

/-- The built-in rule set covers every symbol, in the style for its kind. -/
theorem builtin_governs (symbol : Symbol) :
    (RuleSet.builtin.governingRule? symbol).map (·.style) = some (builtinStyle symbol.kind) := by
  obtain ⟨kind, accessibility, modifiers⟩ := symbol
  cases accessibility <;> cases kind <;> try rfl
  all_goals
    rename_i kind
    cases kind <;> rfl

end Nomenclator
