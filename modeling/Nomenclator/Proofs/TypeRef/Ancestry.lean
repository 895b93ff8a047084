import Nomenclator.Proofs.Distinct
import Nomenclator.TypeRef.Wrapping

/-!
# What is inherited is the nearest

The interfaces of a type stand nearest to it. Behind them come its base types in order, each one
followed by its own interfaces. `NamedType.ancestralWrappings` lists what these types wrap by
themselves, the nearest first, and a type inherits from this list the first collection and the first
awaitable, in this order (`NamedType.inherited_eq_nearest`).

The search goes up the chain of base types and keeps what it finds first of either shape, in the order
in which it finds them. `Inherited.kept` says what has been kept of the wrappings looked at so far;
looking at one more keeps this (`add_kept`), so does looking at a list of types (`addAll_kept`), and so
does going up the chain (`addBases_kept`). What is kept in the end is sorted by shape (`sort_kept`).
-/

namespace Nomenclator

/-! ## The types around a type -/

mutual

/-- The declared types on the chain of base types that starts with this type. It ends where a base type
is missing or is no declared type. -/
def TypeRef.chain : TypeRef → List NamedType
  | .named t => t :: t.bases
  | _ => []

/-- The base type of a type, the base type of that, and so on. -/
def NamedType.bases : NamedType → List NamedType
  | ⟨_, _, _, _, base, _⟩ => TypeRef.chainOfBase base

/-- The chain of base types that starts with a base type, if there is one. -/
def TypeRef.chainOfBase : Option TypeRef → List NamedType
  | none => []
  | some base => base.chain

end

namespace NamedType

variable (t : NamedType)

/-- What the interfaces of the type wrap by themselves, in order. -/
def interfaceWrappings : List Wrapping := t.interfaces.filterMap TypeRef.wrapping?

/-- What the type and behind it its interfaces wrap by themselves. -/
def wrappings : List Wrapping := t.wrapping?.toList ++ t.interfaceWrappings

/-- What the types around the type wrap by themselves, the nearest first: its interfaces, and then its
base types, up to a number of steps, with theirs. -/
def ancestralWrappings : List Wrapping :=
  t.interfaceWrappings ++ (t.bases.take maxInheritance).flatMap wrappings

end NamedType

/-! ## The search -/

namespace Inherited

/-- What is kept of a list of wrappings: the first of every shape that can be inherited. -/
def kept (ws : List Wrapping) : List Wrapping :=
  distinctBy Wrapping.shape (ws.filter fun w => w.shape.isInheritable)

/-- Looking at one more wrapping keeps the first ones. -/
theorem add_kept (ws : List Wrapping) (w : Wrapping) : add (kept ws) w = kept (ws ++ [w]) := by
  unfold add kept
  rw [List.filter_append]
  by_cases hinherited : w.shape.isInheritable = true
  · have hone : [w].filter (fun v => v.shape.isInheritable) = [w] := by simp [hinherited]
    rw [hone, distinctBy_concat, hinherited, Bool.true_and]
    by_cases hbefore : ((distinctBy Wrapping.shape (ws.filter fun v => v.shape.isInheritable)).any
        fun v => v.shape = w.shape) = true
    · simp [hbefore]
    · simp [hbefore]
  · have hnone : [w].filter (fun v => v.shape.isInheritable) = [] := by simp [hinherited]
    rw [hnone, List.append_nil]
    simp [hinherited]

/-- The induction is on the types that are left to look at. -/
theorem addAll_kept (ws : List Wrapping) (types : List TypeRef) :
    addAll (kept ws) types = kept (ws ++ types.filterMap TypeRef.wrapping?) := by
  unfold addAll
  induction types.filterMap TypeRef.wrapping? generalizing ws with
  | nil => rw [List.foldl_nil, List.append_nil]
  | cons w rest ih => rw [List.foldl_cons, add_kept, ih, List.append_assoc, List.singleton_append]

/-- The induction is on the steps up the chain. A step looks at a base type and then at its
interfaces. -/
theorem addBases_kept (n : Nat) (base : Option TypeRef) (ws : List Wrapping) :
    addBases n base (kept ws) =
      kept (ws ++ ((TypeRef.chainOfBase base).take n).flatMap NamedType.wrappings) := by
  induction n generalizing base ws with
  | zero => simp [addBases]
  | succ n ih =>
    cases base with
    | none => simp [addBases, TypeRef.chainOfBase]
    | some type =>
      cases type with
      | named t =>
        have hself : [TypeRef.named t].filterMap TypeRef.wrapping? = t.wrapping?.toList := by
          cases h : t.wrapping? <;> simp [TypeRef.wrapping?, h]
        have hchain : TypeRef.chainOfBase (some (.named t)) = t :: TypeRef.chainOfBase t.base := by
          cases t
          simp [TypeRef.chainOfBase, TypeRef.chain, NamedType.bases]
        rw [addBases, addAll_kept, addAll_kept, ih, hself, hchain, List.take_succ_cons,
          List.flatMap_cons, NamedType.wrappings, NamedType.interfaceWrappings]
        simp only [List.append_assoc]
      | _ => simp [addBases, TypeRef.chainOfBase, TypeRef.chain]

/-- Of a shape that can be inherited the first is kept. -/
theorem filter_kept (ws : List Wrapping) {shape : Shape} (hshape : shape.isInheritable = true) :
    (kept ws).filter (fun w => w.shape = shape) = (ws.find? fun w => w.shape = shape).toList := by
  rw [kept, filter_distinctBy_eq_find?, List.find?_filter]
  refine congrArg (fun p => (List.find? p ws).toList) (funext fun w => ?_)
  by_cases h : w.shape = shape
  · simp [h, hshape]
  · simp [h]

/-- Sorted, the collection that is kept comes in front of the awaitable. -/
theorem sort_kept (ws : List Wrapping) :
    sort (kept ws) = (ws.find? fun w => w.shape = .enumerable).toList ++
      (ws.find? fun w => w.shape = .awaitable).toList := by
  have hrank : ∀ shape : Shape, ((kept ws).filter fun w => w.shape.rank = shape.rank) =
      (kept ws).filter fun w => w.shape = shape := by
    intro shape
    refine List.filter_congr fun w _ => decide_eq_decide.2 ?_
    cases w.shape <;> cases shape <;> simp [Shape.rank]
  have hnullable : ((kept ws).filter fun w => w.shape = .nullable) = [] := by
    refine List.filter_eq_nil_iff.2 fun w hw => ?_
    have hinherited := (List.mem_filter.1 (mem_of_mem_distinctBy hw)).2
    cases hshape : w.shape <;> simp_all [Shape.isInheritable]
  show ((kept ws).filter fun w => w.shape.rank = Shape.rank .enumerable) ++
    (((kept ws).filter fun w => w.shape.rank = Shape.rank .awaitable) ++
      (((kept ws).filter fun w => w.shape.rank = Shape.rank .nullable) ++ [])) = _
  rw [hrank, hrank, hrank, filter_kept ws rfl, filter_kept ws rfl, hnullable, List.append_nil,
    List.append_nil]

end Inherited

/-- A type inherits the nearest collection around it, if there is one, and then the nearest awaitable,
if there is one. It inherits nothing else, and in particular no nullable. -/
theorem NamedType.inherited_eq_nearest (t : NamedType) :
    t.inherited = (t.ancestralWrappings.find? fun w => w.shape = .enumerable).toList ++
        (t.ancestralWrappings.find? fun w => w.shape = .awaitable).toList ∧
      ∀ w ∈ t.inherited, w.shape ≠ .nullable := by
  have hlist : t.inherited = Inherited.sort (Inherited.kept t.ancestralWrappings) := by
    have hbases : t.bases = TypeRef.chainOfBase t.base := by
      cases t
      rw [bases]
    rw [inherited, show ([] : List Wrapping) = Inherited.kept [] from rfl, Inherited.addAll_kept,
      Inherited.addBases_kept, ancestralWrappings, hbases]
    rfl
  rw [hlist, Inherited.sort_kept]
  refine ⟨rfl, fun w hw => ?_⟩
  rcases List.mem_append.1 hw with hw | hw
  · have hshape := List.find?_some (Option.mem_toList.1 hw)
    simp [of_decide_eq_true hshape]
  · have hshape := List.find?_some (Option.mem_toList.1 hw)
    simp [of_decide_eq_true hshape]

/-- A type between others: its interface is a nullable, its base type an awaitable, and the interfaces
of that are two collections. -/
def feed : NamedType where
  name := "Feed".toList
  interfaces := [.named { name := "Nullable".toList, arguments := [.void] }]
  base := some (.named
    { name := "Task".toList
      arguments := [.predefined .string]
      interfaces :=
        [.named { name := "IList".toList, arguments := [.predefined .int] },
          .named { name := "ISet".toList, arguments := [.predefined .bool] }] })

/-- The nullable is the nearest and is not inherited; of the collections the first is, and it comes
before the awaitable, which is nearer. -/
theorem NamedType.inherited_eq_nearest_feed :
    feed.ancestralWrappings = [⟨.nullable, .void⟩, ⟨.awaitable, .predefined .string⟩,
        ⟨.enumerable, .predefined .int⟩, ⟨.enumerable, .predefined .bool⟩] ∧
      feed.inherited = [⟨.enumerable, .predefined .int⟩, ⟨.awaitable, .predefined .string⟩] ∧
      ∃ w ∈ feed.inherited, w.argument = .predefined .string ∧ w.shape ≠ .nullable := by
  obtain ⟨hnearest, hnullable⟩ := NamedType.inherited_eq_nearest feed
  have hlist : feed.inherited =
      [⟨.enumerable, .predefined .int⟩, ⟨.awaitable, .predefined .string⟩] := by
    rw [hnearest]
    rfl
  have hmem : ⟨.awaitable, .predefined .string⟩ ∈ feed.inherited := by
    rw [hlist]
    simp
  exact ⟨rfl, hlist, _, hmem, rfl, hnullable _ hmem⟩

end Nomenclator
