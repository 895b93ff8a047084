import Nomenclator.Json.Identified
import Nomenclator.Vocabulary.Accessibility
import Nomenclator.Vocabulary.Capitalization
import Nomenclator.Vocabulary.Modifier
import Nomenclator.Vocabulary.PredefinedType
import Nomenclator.Vocabulary.Severity
import Nomenclator.Vocabulary.SymbolKind

/-!
# Identifiers of vocabulary members

In JSON texts the members of the vocabularies have identifiers with an underscore between the words
of their names. Some of them differ from the tokens of a configuration.
-/

namespace Nomenclator

instance : Identified TypeKind where
  members := [.classType, .structType, .interfaceType, .enumType, .delegateType]
  identifier := TypeKind.canonical
  find?_identifier a := by cases a <;> rfl

instance : Identified SymbolKind where
  members :=
    [.type .classType, .type .structType, .type .interfaceType, .type .enumType,
      .type .delegateType, .field, .property, .event, .method, .localFunction, .parameter,
      .localVariable, .typeParameter]
  identifier := SymbolKind.canonical
  find?_identifier a := by
    cases a with
    | type kind => cases kind <;> rfl
    | _ => rfl

instance : Identified Accessibility where
  members :=
    [.publicLevel, .internalLevel, .privateLevel, .protectedLevel, .protectedInternalLevel]
  identifier := Accessibility.canonical
  find?_identifier a := by cases a <;> rfl

/-- The identifier of a modifier. -/
def Modifier.identifier : Modifier → String
  | .readOnly => "read_only"
  | m => m.canonical

instance : Identified Modifier where
  members := Vocabulary.entries
  identifier := Modifier.identifier
  find?_identifier a := by cases a <;> rfl

instance : Identified Capitalization where
  members := [.pascalCase, .camelCase, .firstWordUpper, .allUpper, .allLower]
  identifier := Capitalization.canonical
  find?_identifier a := by cases a <;> rfl

instance : Identified Severity where
  members := [.none, .silent, .suggestion, .warning, .error]
  identifier := Severity.canonical
  find?_identifier a := by cases a <;> rfl

/-- The identifier of a predefined type. -/
def PredefinedType.identifier : PredefinedType → String
  | .sByte => "s_byte"
  | .uShort => "u_short"
  | .uInt => "u_int"
  | .uLong => "u_long"
  | t => t.keyword

instance : Identified PredefinedType where
  members := PredefinedType.all
  identifier := PredefinedType.identifier
  find?_identifier a := by cases a <;> rfl

end Nomenclator
