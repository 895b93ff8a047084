import Nomenclator.Vocabulary.Basic

/-!
# Kinds of symbols

What a declaration declares: one of five kinds of types, or a member, a local, a parameter.
Naming rules choose the symbols they govern by these kinds, among other things.
-/

namespace Nomenclator

/-- The kinds of type declarations. -/
inductive TypeKind
  | classType
  | structType
  | interfaceType
  | enumType
  | delegateType
  deriving DecidableEq, Repr

/-- The kinds of declarations. -/
inductive SymbolKind
  | type (kind : TypeKind)
  | field
  | property
  | event
  | method
  | localFunction
  | parameter
  | localVariable
  | typeParameter
  deriving DecidableEq, Repr

/-- The token of a type kind. -/
def TypeKind.canonical : TypeKind → String
  | .classType => "class"
  | .structType => "struct"
  | .interfaceType => "interface"
  | .enumType => "enum"
  | .delegateType => "delegate"

namespace SymbolKind

/-- A symbol that is called: a method or a local function. -/
def isMethodLike : SymbolKind → Bool
  | .method | .localFunction => true
  | _ => false

/-- A type declaration. -/
def isType : SymbolKind → Bool
  | .type _ => true
  | _ => false

/-- The token of a symbol kind. -/
def canonical : SymbolKind → String
  | .type kind => kind.canonical
  | .field => "field"
  | .property => "property"
  | .event => "event"
  | .method => "method"
  | .localFunction => "local_function"
  | .parameter => "parameter"
  | .localVariable => "local"
  | .typeParameter => "type_parameter"

/-- What a symbol kind covers. -/
def description : SymbolKind → String
  | .type .classType => "Class declarations."
  | .type .structType => "Struct declarations."
  | .type .interfaceType => "Interface declarations."
  | .type .enumType => "Enum declarations."
  | .type .delegateType => "Delegate type declarations."
  | .field => "Fields, including constants."
  | .property => "Properties."
  | .event => "Events."
  | .method => "Ordinary methods."
  | .localFunction => "Functions declared inside a method body."
  | .parameter => "Method and lambda parameters."
  | .localVariable => "Local variables."
  | .typeParameter => "Generic type parameters."

end SymbolKind

instance : Vocabulary SymbolKind where
  entries :=
    [.type .classType, .type .structType, .type .interfaceType, .type .enumType, .property,
      .method, .localFunction, .field, .event, .type .delegateType, .parameter, .localVariable,
      .typeParameter]
  canonical := SymbolKind.canonical
  aliases _ := []
  description := SymbolKind.description

/-- Every symbol kind is listed. -/
theorem SymbolKind.mem_entries (k : SymbolKind) : k ∈ (Vocabulary.entries : List SymbolKind) := by
  cases k with
  | type kind => cases kind <;> decide
  | _ => decide

end Nomenclator
