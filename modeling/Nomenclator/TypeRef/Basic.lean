import Nomenclator.Vocabulary.PredefinedType
import Nomenclator.Vocabulary.SymbolKind

/-!
# Type references

The type that is written before the name of a declaration: a predefined or a declared type, an array
or a nullable of a type, an alias, a type parameter, nothing, or something that could not be
resolved. A declared type knows its type arguments, its base type and its interfaces.

Main definitions: `TypeRef.identity` and `NamedType.identity` spell a type in full. Base types and
interfaces are not part of the spelling.
-/

namespace Nomenclator

mutual

/-- A reference to a type. -/
inductive TypeRef
  /-- A type with a keyword of its own. -/
  | predefined (type : PredefinedType)
  /-- A declared type. -/
  | named (type : NamedType)
  | array (element : TypeRef)
  | nullable (inner : TypeRef)
  /-- Another name for a type. -/
  | alias (name : Text) (target : TypeRef)
  | typeParameter (name : Text)
  | void
  /-- A type that could not be resolved. -/
  | error

/-- A class, struct, interface, enum or delegate, possibly generic. -/
structure NamedType where
  /-- The simple name. -/
  name : Text
  /-- The namespace with dots between its parts, empty for the global one. -/
  scope : Text := []
  kind : TypeKind := .classType
  arguments : List TypeRef := []
  base : Option TypeRef := none
  interfaces : List TypeRef := []

end

/-! ## Equality -/

mutual

/-- The two type references are the same. -/
def TypeRef.same : TypeRef → TypeRef → Bool
  | .predefined s => fun | .predefined t => decide (s = t) | _ => false
  | .named s => fun | .named t => s.same t | _ => false
  | .array s => fun | .array t => s.same t | _ => false
  | .nullable s => fun | .nullable t => s.same t | _ => false
  | .alias m s => fun | .alias n t => decide (m = n) && s.same t | _ => false
  | .typeParameter m => fun | .typeParameter n => decide (m = n) | _ => false
  | .void => fun | .void => true | _ => false
  | .error => fun | .error => true | _ => false

/-- The two declared types are the same. -/
def NamedType.same : NamedType → NamedType → Bool
  | ⟨name, scope, kind, arguments, base, interfaces⟩ => fun t =>
    decide (name = t.name) && decide (scope = t.scope) && decide (kind = t.kind)
      && TypeRef.sameList arguments t.arguments && TypeRef.sameOption base t.base
      && TypeRef.sameList interfaces t.interfaces

/-- The two optional type references are the same. -/
def TypeRef.sameOption : Option TypeRef → Option TypeRef → Bool
  | none => fun | none => true | some _ => false
  | some s => fun | none => false | some t => s.same t

/-- The type references in the two lists are the same. -/
def TypeRef.sameList : List TypeRef → List TypeRef → Bool
  | [] => fun | [] => true | _ :: _ => false
  | s :: ss => fun | [] => false | t :: ts => s.same t && TypeRef.sameList ss ts

end

mutual

theorem TypeRef.same_iff : ∀ s t : TypeRef, TypeRef.same s t = true ↔ s = t
  | .predefined _, t => by cases t <;> simp [TypeRef.same]
  | .named s, t => by cases t <;> simp [TypeRef.same, NamedType.same_iff s]
  | .array s, t => by cases t <;> simp [TypeRef.same, TypeRef.same_iff s]
  | .nullable s, t => by cases t <;> simp [TypeRef.same, TypeRef.same_iff s]
  | .alias _ s, t => by cases t <;> simp [TypeRef.same, TypeRef.same_iff s]
  | .typeParameter _, t => by cases t <;> simp [TypeRef.same]
  | .void, t => by cases t <;> simp [TypeRef.same]
  | .error, t => by cases t <;> simp [TypeRef.same]

theorem NamedType.same_iff : ∀ s t : NamedType, NamedType.same s t = true ↔ s = t
  | ⟨_, _, _, arguments, base, interfaces⟩, ⟨_, _, _, _, _, _⟩ => by
    simp [NamedType.same, TypeRef.sameList_iff arguments, TypeRef.sameOption_iff base,
      TypeRef.sameList_iff interfaces, and_assoc]

theorem TypeRef.sameOption_iff :
    ∀ s t : Option TypeRef, TypeRef.sameOption s t = true ↔ s = t
  | none, t => by cases t <;> simp [TypeRef.sameOption]
  | some s, t => by cases t <;> simp [TypeRef.sameOption, TypeRef.same_iff s]

theorem TypeRef.sameList_iff : ∀ ss ts : List TypeRef, TypeRef.sameList ss ts = true ↔ ss = ts
  | [], ts => by cases ts <;> simp [TypeRef.sameList]
  | s :: ss, ts => by
    cases ts <;> simp [TypeRef.sameList, TypeRef.same_iff s, TypeRef.sameList_iff ss]

end

instance : DecidableEq TypeRef := fun s t => decidable_of_iff _ (TypeRef.same_iff s t)

instance : DecidableEq NamedType := fun s t => decidable_of_iff _ (NamedType.same_iff s t)

/-! ## Names -/

namespace NamedType

/-- The type with this full name: the namespace ends at the last dot. -/
def ofQualifiedName (name : Text) : NamedType :=
  match Text.splitLast? '.' name with
  | none => { name }
  | some (scope, name) => { name, scope }

/-- The name behind the namespace, if there is one. -/
def qualifiedName (t : NamedType) : Text :=
  if t.scope = [] then t.name else t.scope ++ '.' :: t.name

end NamedType

/-- Type arguments in angle brackets, if there are any. -/
def angled : List Text → Text
  | [] => []
  | arguments => '<' :: (Text.joinWith ", ".toList arguments ++ ['>'])

mutual

/-- The spelling of a type in full. -/
def TypeRef.identity : TypeRef → Text
  | .predefined type => type.keyword.toList
  | .named type => type.identity
  | .array element => element.identity ++ "[]".toList
  | .nullable inner => inner.identity ++ ['?']
  | .alias name target => name ++ '=' :: target.identity
  | .typeParameter name => '!' :: name
  | .void => "void".toList
  | .error => "?error".toList

/-- The full name with the spellings of the type arguments. -/
def NamedType.identity : NamedType → Text
  | ⟨name, scope, _, arguments, _, _⟩ =>
    NamedType.qualifiedName { name, scope } ++ angled (TypeRef.identities arguments)

/-- The spellings of several types. -/
def TypeRef.identities : List TypeRef → List Text
  | [] => []
  | t :: ts => t.identity :: TypeRef.identities ts

end

end Nomenclator
