import Nomenclator.Proofs.TypeRef.Inheritance

/-!
# The names in a type

The names that a type reference is written with: of declared types, of aliases and of type
parameters, those in type arguments, base types and interfaces included. Whatever a type wraps, by
itself or by inheritance, is written with names of the type (`names_wrapping?_subset`,
`names_inherited_subset`), so what is said of all names of a type stays true while it is unwrapped.
-/

namespace Nomenclator

mutual

/-- The names that a type reference is written with. -/
def TypeRef.names : TypeRef → List Text
  | .predefined _ => []
  | .named type => type.names
  | .array element => element.names
  | .nullable inner => inner.names
  | .alias name target => name :: target.names
  | .typeParameter name => [name]
  | .void => []
  | .error => []

/-- The names that a declared type is written with, its own name first. -/
def NamedType.names : NamedType → List Text
  | ⟨name, _, _, arguments, base, interfaces⟩ =>
    name :: (TypeRef.namesOfList arguments ++ TypeRef.namesOfOption base
      ++ TypeRef.namesOfList interfaces)

/-- The names in an optional type reference. -/
def TypeRef.namesOfOption : Option TypeRef → List Text
  | none => []
  | some type => type.names

/-- The names in a list of type references. -/
def TypeRef.namesOfList : List TypeRef → List Text
  | [] => []
  | type :: types => type.names ++ TypeRef.namesOfList types

end

theorem TypeRef.namesOfList_eq_flatMap (types : List TypeRef) :
    TypeRef.namesOfList types = types.flatMap TypeRef.names := by
  induction types with
  | nil => rfl
  | cons type types ih => rw [TypeRef.namesOfList, ih, List.flatMap_cons]

namespace NamedType

variable {t : NamedType}

theorem names_eq (t : NamedType) :
    t.names = t.name :: (t.arguments.flatMap TypeRef.names ++ TypeRef.namesOfOption t.base
      ++ t.interfaces.flatMap TypeRef.names) := by
  obtain ⟨name, scope, kind, arguments, base, interfaces⟩ := t
  rw [names, TypeRef.namesOfList_eq_flatMap, TypeRef.namesOfList_eq_flatMap]

theorem name_mem_names (t : NamedType) : t.name ∈ t.names := by
  rw [names_eq]
  exact List.mem_cons_self

/-- The parts of a type are written with names of the type. -/
theorem names_subset_of_mem_parts {type : TypeRef} (h : type ∈ t.parts) :
    type.names ⊆ t.names := by
  intro name hname
  rw [names_eq, List.mem_cons, List.mem_append, List.mem_append]
  rcases List.mem_append.1 h with h | h
  · rcases List.mem_append.1 h with h | h
    · exact Or.inr (Or.inl (Or.inl (List.mem_flatMap.2 ⟨type, h, hname⟩)))
    · rw [Option.mem_toList.1 h]
      exact Or.inr (Or.inl (Or.inr hname))
  · exact Or.inr (Or.inr (List.mem_flatMap.2 ⟨type, h, hname⟩))

/-! ## Wrapped types -/

/-- What a type wraps by itself is written with names of the type. -/
theorem names_wrapping?_subset {w : Wrapping} (h : t.wrapping? = some w) :
    w.argument.names ⊆ t.names :=
  names_subset_of_mem_parts (mem_parts_of_mem_arguments (argument_mem_of_wrapping? h))

/-- What a type wraps by inheritance is written with names of the type. -/
theorem names_inherited_subset {w : Wrapping} (h : w ∈ t.inherited) :
    w.argument.names ⊆ t.names := by
  refine forall_inherited (fun u hu type htype => ?_) (fun type => names_subset_of_mem_parts) w h
  exact List.Subset.trans (names_subset_of_mem_parts htype) (by simpa [TypeRef.names] using hu)

end NamedType

end Nomenclator
