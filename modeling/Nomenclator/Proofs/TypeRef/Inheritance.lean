import Nomenclator.TypeRef.Wrapping

/-!
# What a type wraps is a part of it

The parts of a declared type are its type arguments, its base type and its interfaces. What the type
wraps by itself is a type argument (`argument_mem_of_wrapping?`). What it wraps by inheritance is a
part of a part, some steps down, so whatever passes from a declared type to its parts is true of it
if it is true of the parts of the type (`forall_inherited`). One such property is to be a smaller
tree: taking off wrappers comes to an end (`sizeOf_argument_lt_of_wrapping?`,
`sizeOf_argument_lt_of_mem_inherited`).
-/

namespace Nomenclator

/-- The types that a declared type is written with. -/
def NamedType.parts (t : NamedType) : List TypeRef := t.arguments ++ t.base.toList ++ t.interfaces

namespace NamedType

variable {t : NamedType} {type : TypeRef} {w : Wrapping}

theorem mem_parts_of_mem_arguments (h : type ∈ t.arguments) : type ∈ t.parts :=
  List.mem_append_left _ (List.mem_append_left _ h)

theorem mem_parts_of_mem_base (h : type ∈ t.base) : type ∈ t.parts :=
  List.mem_append_left _ (List.mem_append_right _ (Option.mem_toList.2 h))

theorem mem_parts_of_mem_interfaces (h : type ∈ t.interfaces) : type ∈ t.parts :=
  List.mem_append_right _ h

/-- What a type wraps by itself is its type argument. -/
theorem argument_mem_of_wrapping? (h : t.wrapping? = some w) : w.argument ∈ t.arguments := by
  unfold wrapping? at h
  split at h
  · rename_i argument harguments
    obtain ⟨shape, -, rfl⟩ := Option.map_eq_some_iff.1 h
    rw [harguments]
    exact List.mem_cons_self
  · cases h

end NamedType

/-! ## Inheritance -/

namespace Inherited

variable {found : List Wrapping}

/-- Nothing is found but what was found before and what is added. -/
theorem mem_add {w v : Wrapping} (h : v ∈ add found w) : v ∈ found ∨ v = w := by
  unfold add at h
  split at h
  · rw [List.mem_append, List.mem_singleton] at h
    exact h
  · exact Or.inl h

theorem mem_sort {v : Wrapping} (h : v ∈ sort found) : v ∈ found := by
  obtain ⟨rank, -, hmem⟩ := List.mem_flatMap.1 h
  exact (List.mem_filter.1 hmem).1

section Parts

variable {P : TypeRef → Prop} (hparts : ∀ u : NamedType, P (.named u) → ∀ type ∈ u.parts, P type)
include hparts

theorem forall_addAll (h : ∀ w ∈ found, P w.argument) {types : List TypeRef}
    (htypes : ∀ type ∈ types, P type) : ∀ w ∈ addAll found types, P w.argument := by
  have hwrappings : ∀ w ∈ types.filterMap TypeRef.wrapping?, P w.argument := by
    intro w hw
    obtain ⟨type, htype, hwrap⟩ := List.mem_filterMap.1 hw
    cases type with
    | named u =>
      exact hparts u (htypes _ htype) _
        (NamedType.mem_parts_of_mem_arguments (NamedType.argument_mem_of_wrapping? hwrap))
    | _ => cases hwrap
  unfold addAll
  generalize types.filterMap TypeRef.wrapping? = wrappings at hwrappings
  induction wrappings generalizing found with
  | nil => exact h
  | cons w wrappings ih =>
    refine ih ?_ fun v hv => hwrappings v (List.mem_cons_of_mem w hv)
    intro v hv
    rcases mem_add hv with hv | rfl
    · exact h v hv
    · exact hwrappings v List.mem_cons_self

/-- The induction is on the steps up the chain of base types. -/
theorem forall_addBases {n : Nat} {base : Option TypeRef} (hbase : ∀ type ∈ base, P type)
    (h : ∀ w ∈ found, P w.argument) : ∀ w ∈ addBases n base found, P w.argument := by
  induction n generalizing base found with
  | zero => simpa [addBases] using h
  | succ n ih =>
    cases base with
    | none => exact h
    | some type =>
      have htype : P type := hbase type rfl
      cases type with
      | named t =>
        refine ih (fun b hb => hparts t htype b (NamedType.mem_parts_of_mem_base hb))
          (forall_addAll hparts (forall_addAll hparts h ?_) ?_)
        · intro u hu
          rw [List.mem_singleton.1 hu]
          exact htype
        · exact fun u hu => hparts t htype u (NamedType.mem_parts_of_mem_interfaces hu)
      | _ => exact h

end Parts

end Inherited

/-- What passes from a declared type to its parts is true of all that a type wraps by inheritance, if
it is true of the parts of the type. -/
theorem NamedType.forall_inherited {P : TypeRef → Prop}
    (hparts : ∀ u : NamedType, P (.named u) → ∀ type ∈ u.parts, P type) {t : NamedType}
    (ht : ∀ type ∈ t.parts, P type) : ∀ w ∈ t.inherited, P w.argument := by
  intro w hw
  have hnone : ∀ w ∈ ([] : List Wrapping), P w.argument := by simp
  refine Inherited.forall_addBases hparts ?_ ?_ w (Inherited.mem_sort hw)
  · exact fun type hbase => ht type (mem_parts_of_mem_base hbase)
  · exact Inherited.forall_addAll hparts hnone
      fun type htype => ht type (mem_parts_of_mem_interfaces htype)

/-! ## Size -/

namespace NamedType

variable {t : NamedType} {w : Wrapping}

theorem sizeOf_lt_of_mem_parts {type : TypeRef} (h : type ∈ t.parts) : sizeOf type < sizeOf t := by
  obtain ⟨name, scope, kind, arguments, base, interfaces⟩ := t
  rw [NamedType.mk.sizeOf_spec]
  rcases List.mem_append.1 h with h | h
  · rcases List.mem_append.1 h with h | h
    · have hlt : sizeOf type < sizeOf arguments := List.sizeOf_lt_of_mem h
      omega
    · obtain rfl : base = some type := Option.mem_toList.1 h
      rw [Option.some.sizeOf_spec]
      omega
  · have hlt : sizeOf type < sizeOf interfaces := List.sizeOf_lt_of_mem h
    omega

theorem sizeOf_argument_lt_of_wrapping? (h : t.wrapping? = some w) :
    sizeOf w.argument < sizeOf t :=
  sizeOf_lt_of_mem_parts (mem_parts_of_mem_arguments (argument_mem_of_wrapping? h))

theorem sizeOf_argument_lt_of_mem_inherited (h : w ∈ t.inherited) :
    sizeOf w.argument < sizeOf t := by
  have hparts : ∀ u : NamedType, sizeOf (TypeRef.named u) < sizeOf t →
      ∀ type ∈ u.parts, sizeOf type < sizeOf t := by
    intro u hu type htype
    rw [TypeRef.named.sizeOf_spec] at hu
    have hlt : sizeOf type < sizeOf u := sizeOf_lt_of_mem_parts htype
    omega
  exact forall_inherited hparts (fun type htype => sizeOf_lt_of_mem_parts htype) w h

end NamedType

end Nomenclator
