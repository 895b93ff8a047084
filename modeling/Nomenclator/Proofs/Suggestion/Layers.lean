import Mathlib.Data.List.Basic
import Mathlib.Logic.Function.Iterate
import Nomenclator.Proofs.Distinct
import Nomenclator.Proofs.TypeRef.Inheritance
import Nomenclator.Proofs.Word.Boundary
import Nomenclator.Suggestion.Decomposition

/-!
# Names under layers of wrappers

A type may be wrapped in layers of arrays, nullables and generic types of one argument. Unwrapping takes
off as many of them as it may visit, and the names that it finds are those of the core, or of the generic
type at which it has to stop. It may find none, although the core has a name: an array or a nullable at
the limit has no name of its own, and what it wraps is not visited any more. Exactly the types with such
a layer at the limit have no names, unless a nullable further out wraps a nullable, which has a name of
its own (`TypeRef.decompose_ne_nil_iff`, `TypeRef.decompose_arrays_eq_nil`).

The test for a type inside one of the same spelling never fires here, for the spelling of an inner type
is shorter (`NamedType.length_identity_lt_of_wrapping?`).
-/

namespace Nomenclator

/-! ## Layers -/

/-- What a type can be wrapped in. -/
inductive Layer
  | array
  | nullable
  /-- A declared type that wraps its one argument by itself. -/
  | generic (shape : Shape)
  deriving DecidableEq, Repr

namespace Layer

/-- The layer is a nullable, in short or in full. -/
def isNullable : Layer → Bool
  | .nullable | .generic .nullable => true
  | .array | .generic .enumerable | .generic .awaitable => false

/-- The layer is a declared type, which has a name. -/
def isNamed : Layer → Bool
  | .generic _ => true
  | .array | .nullable => false

/-- At this place from outside, a nullable wraps a nullable. -/
def NestAt (layers : List Layer) (place : Nat) : Prop :=
  ∃ outer ∈ layers[place]?, ∃ inner ∈ layers[place + 1]?,
    outer.isNullable = true ∧ inner.isNullable = true

/-- Down to this place from outside there is something to name the type by: a nullable in a nullable, or
a layer or a core with a name at the place itself. -/
def NamedWithin (place : Nat) (layers : List Layer) : Prop :=
  (∃ i ≤ place, NestAt layers i) ∨ ∀ last ∈ layers[place]?, last.isNamed = true

variable {layer : Layer} {layers : List Layer}

theorem nestAt_zero_iff :
    NestAt (layer :: layers) 0 ↔
      layer.isNullable = true ∧ ∃ inner ∈ layers.head?, inner.isNullable = true := by
  constructor
  · rintro ⟨outer, houter, inner, hinner, hnullable, hnested⟩
    obtain rfl : layer = outer := Option.some.inj houter
    exact ⟨hnullable, inner, by rwa [List.head?_eq_getElem?], hnested⟩
  · rintro ⟨hnullable, inner, hinner, hnested⟩
    exact ⟨layer, rfl, inner, by rwa [List.head?_eq_getElem?] at hinner, hnullable, hnested⟩

theorem namedWithin_zero_iff :
    NamedWithin 0 (layer :: layers) ↔ NestAt (layer :: layers) 0 ∨ layer.isNamed = true := by
  simp [NamedWithin]

/-- The outermost layer only counts for what it is wrapped around. -/
theorem namedWithin_succ_iff {place : Nat} :
    NamedWithin (place + 1) (layer :: layers) ↔
      NestAt (layer :: layers) 0 ∨ NamedWithin place layers := by
  have hshift : (∃ i ≤ place + 1, NestAt (layer :: layers) i) ↔
      NestAt (layer :: layers) 0 ∨ ∃ i ≤ place, NestAt layers i := by
    constructor
    · rintro ⟨i, hi, hnest⟩
      cases i with
      | zero => exact Or.inl hnest
      | succ i => exact Or.inr ⟨i, by omega, hnest⟩
    · rintro (hnest | ⟨i, hi, hnest⟩)
      · exact ⟨0, by omega, hnest⟩
      · exact ⟨i + 1, by omega, hnest⟩
  rw [NamedWithin, NamedWithin, hshift, or_assoc, List.getElem?_cons_succ]

end Layer

namespace TypeRef

/-- The core is under these layers in the type, the outermost first. -/
inductive IsUnder (core : TypeRef) : List Layer → TypeRef → Prop
  | bare : IsUnder core [] core
  | array {layers : List Layer} {type : TypeRef} (h : IsUnder core layers type) :
      IsUnder core (.array :: layers) (.array type)
  | nullable {layers : List Layer} {type : TypeRef} (h : IsUnder core layers type) :
      IsUnder core (.nullable :: layers) (.nullable type)
  | generic {layers : List Layer} {t : NamedType} {w : Wrapping} (hw : t.wrapping? = some w)
      (h : IsUnder core layers w.argument) :
      IsUnder core (.generic w.shape :: layers) (.named t)

/-- A type is a nullable if its outermost layer is. -/
theorem IsUnder.isNullable_iff {core type : TypeRef} {layers : List Layer}
    (h : core.IsUnder layers type) (hcore : core.isNullable = false) :
    type.isNullable = true ↔ ∃ layer ∈ layers.head?, layer.isNullable = true := by
  cases h with
  | bare => simp [hcore]
  | array => simp [isNullable, wrapping?, Layer.isNullable]
  | nullable => simp [isNullable, Layer.isNullable]
  | @generic layers t w hw =>
    obtain ⟨shape, argument⟩ := w
    cases shape <;> simp [isNullable, wrapping?, hw, Layer.isNullable]

/-- A wrapper is a nullable of a nullable if its layer and the one inside it are nullables. -/
theorem IsUnder.nested_iff {core : TypeRef} {layers : List Layer} {w : Wrapping} {layer : Layer}
    (h : core.IsUnder layers w.argument) (hcore : core.isNullable = false)
    (hlayer : layer.isNullable = true ↔ w.shape = .nullable) :
    w.shape = .nullable ∧ w.argument.isNullable = true ↔ Layer.NestAt (layer :: layers) 0 := by
  rw [Layer.nestAt_zero_iff, hlayer, h.isNullable_iff hcore]

theorem IsUnder.arrays {core type : TypeRef} {layers : List Layer}
    (h : core.IsUnder layers type) (n : Nat) :
    core.IsUnder (List.replicate n .array ++ layers) (TypeRef.array^[n] type) := by
  induction n with
  | zero => exact h
  | succ n ih =>
    rw [Function.iterate_succ_apply', List.replicate_succ, List.cons_append]
    exact ih.array

end TypeRef

/-! ## Types that wrap their argument -/

theorem TypeRef.length_identity_lt_array (element : TypeRef) :
    element.identity.length < (TypeRef.array element).identity.length := by
  simp [identity]

theorem TypeRef.length_identity_lt_nullable (inner : TypeRef) :
    inner.identity.length < (TypeRef.nullable inner).identity.length := by
  simp [identity]

namespace NamedType

variable {t : NamedType} {w : Wrapping}

theorem arguments_eq_of_wrapping? (h : t.wrapping? = some w) : t.arguments = [w.argument] := by
  unfold wrapping? at h
  split at h
  · rename_i argument harguments
    obtain ⟨shape, -, rfl⟩ := Option.map_eq_some_iff.1 h
    exact harguments
  · cases h

/-- The spelling of a generic type holds that of its argument and more. -/
theorem length_identity_lt_of_wrapping? (h : t.wrapping? = some w) :
    w.argument.identity.length < t.identity.length := by
  have harguments := arguments_eq_of_wrapping? h
  obtain ⟨name, scope, kind, arguments, base, interfaces⟩ := t
  obtain rfl : arguments = [w.argument] := harguments
  simp only [identity, TypeRef.identities, angled, Text.joinWith, List.length_append,
    List.length_cons]
  omega

/-- The name of such a type is that of one of the well-known types, alone or behind its namespace. -/
theorem exists_wellKnown_of_wrapping? (h : t.wrapping? = some w) :
    ∃ entry ∈ Shape.wellKnown,
      Shape.simpleName entry.1.toList = t.name ∨ entry.1.toList = t.scope ++ '.' :: t.name := by
  unfold wrapping? at h
  split at h
  · obtain ⟨shape, hshape, -⟩ := Option.map_eq_some_iff.1 h
    by_cases hscope : t.scope = []
    · rw [if_pos hscope] at hshape
      obtain ⟨entry, hfind, -⟩ := Option.map_eq_some_iff.1 hshape
      exact ⟨entry, List.mem_of_find?_eq_some hfind,
        Or.inl (by simpa using List.find?_some hfind)⟩
    · rw [if_neg hscope] at hshape
      obtain ⟨entry, hfind, -⟩ := Option.map_eq_some_iff.1 hshape
      have hname : entry.1.toList = t.qualifiedName := by simpa using List.find?_some hfind
      rw [qualifiedName, if_neg hscope] at hname
      exact ⟨entry, List.mem_of_find?_eq_some hfind, Or.inr hname⟩
  · cases h

/-- A type that wraps its argument by itself has a name with words. -/
theorem breakWords_name_ne_nil (h : t.wrapping? = some w) : Word.breakWords t.name ≠ [] := by
  have hends : ∀ entry ∈ Shape.wellKnown,
      (Shape.simpleName entry.1.toList).any Word.isWordChar = true ∧
        entry.1.toList.getLast?.any Word.isWordChar = true := by
    decide
  obtain ⟨entry, hentry, hname⟩ := exists_wellKnown_of_wrapping? h
  obtain ⟨hsimple, hlast⟩ := hends entry hentry
  rw [Word.breakWords_ne_nil_iff]
  rcases hname with hname | hname
  · rw [hname] at hsimple
    exact List.any_eq_true.1 hsimple
  · -- The last character of a full name is a letter, so it is not the dot before the simple name.
    obtain ⟨c, hc, hword⟩ := (Option.any_eq_true _ _).1 hlast
    rw [hname, List.getLast?_append_of_ne_nil _ (List.cons_ne_nil _ _)] at hc
    refine ⟨c, ?_, hword⟩
    rcases List.mem_cons.1 (List.mem_of_getLast? hc) with rfl | hmem
    · exact absurd hword (by decide)
    · exact hmem

theorem ownVariants_ne_nil (hname : Word.breakWords t.name ≠ []) (plural : Bool) :
    t.ownVariants plural ≠ [] := by
  unfold ownVariants NameVariant.ofName
  split
  · rename_i hnil
    exact absurd hnil hname
  · simp

end NamedType

/-! ## Unwrapping by one step -/

theorem withAsyncPhrases_eq_nil_iff {asyncPhrases : Bool} {vs : List NameVariant} :
    withAsyncPhrases asyncPhrases vs = [] ↔ vs = [] := by
  cases asyncPhrases <;> simp +contextual [withAsyncPhrases]

/-- A wrapper has names if it is a nullable of a nullable, or if what it wraps has names. -/
theorem Wrapping.unwrap_ne_nil_iff {asyncPhrases : Bool}
    {visit : TypeRef → Bool → List NameVariant} {w : Wrapping} {P : Prop}
    (hvisit : ∀ plural, visit w.argument plural ≠ [] ↔ P) (plural : Bool) :
    w.unwrap asyncPhrases visit plural ≠ [] ↔
      (w.shape = .nullable ∧ w.argument.isNullable = true) ∨ P := by
  obtain ⟨shape, argument⟩ := w
  cases shape with
  | enumerable => simpa [unwrap] using hvisit true
  | awaitable => simpa [unwrap, withAsyncPhrases_eq_nil_iff] using hvisit plural
  | nullable =>
    by_cases hnested : argument.isNullable = true
    · simp [unwrap, unwrapNullable, hnested]
    · simpa [unwrap, unwrapNullable, hnested] using hvisit plural

/-! ## Unwrapping all the way -/

namespace TypeRef

variable {t : NamedType} {layers : List Layer} {type : TypeRef}

/-- A declared type that is no wrapper has its own name, whatever the limits. -/
theorem variants_core_ne_nil (ht : t.wrapping? = none) (hname : Word.breakWords t.name ≠ [])
    (asyncPhrases : Bool) (budget : Nat) (around : List Text) (plural : Bool) :
    variants asyncPhrases (budget + 1) around (.named t) plural ≠ [] := by
  have hown := NamedType.ownVariants_ne_nil hname plural
  rw [variants]
  split
  · exact hown
  · simp [NamedType.unwrap, ht, hown]

/-- An array is taken off as a collection is. -/
theorem variants_array (asyncPhrases : Bool) (budget : Nat) (around : List Text) (element : TypeRef)
    (plural : Bool) :
    variants asyncPhrases (budget + 1) around (.array element) plural =
      Wrapping.unwrap asyncPhrases (variants asyncPhrases budget around) ⟨.enumerable, element⟩
        plural := by
  rw [variants]
  rfl

/-- A nullable in short is taken off as one in full is. -/
theorem variants_nullable (asyncPhrases : Bool) (budget : Nat) (around : List Text)
    (inner : TypeRef) (plural : Bool) :
    variants asyncPhrases (budget + 1) around (.nullable inner) plural =
      Wrapping.unwrap asyncPhrases (variants asyncPhrases budget around) ⟨.nullable, inner⟩
        plural := by
  rw [variants]
  rfl

/-- Above the limit, and inside types of other spellings only, a generic type is taken off. -/
theorem variants_generic {u : NamedType} {w : Wrapping} (hw : u.wrapping? = some w)
    {around : List Text} (hnew : u.identity ∉ around) (asyncPhrases : Bool) (budget : Nat)
    (plural : Bool) :
    variants asyncPhrases (budget + 2) around (.named u) plural =
      w.unwrap asyncPhrases (variants asyncPhrases (budget + 1) (u.identity :: around)) plural := by
  have hguard : ¬ (budget + 1 = 0 ∨ u.identity ∈ around) := by simp [hnew]
  rw [variants, if_neg hguard, NamedType.unwrap, hw]

/-- At the limit a declared type gives its own name. -/
theorem variants_named_limit (asyncPhrases : Bool) (around : List Text) (u : NamedType)
    (plural : Bool) :
    variants asyncPhrases 1 around (.named u) plural = u.ownVariants plural := by
  rw [variants, if_pos (Or.inl rfl)]

section Step

variable {asyncPhrases : Bool} {around : List Text} {w : Wrapping} {layer : Layer}
  (hnested : w.shape = .nullable ∧ w.argument.isNullable = true ↔ Layer.NestAt (layer :: layers) 0)

include hnested

/-- At the limit what a wrapper wraps gives nothing, and the wrapper has no name of its own. -/
theorem unwrap_limit_ne_nil_iff (hunnamed : layer.isNamed = false) (plural : Bool) :
    w.unwrap asyncPhrases (variants asyncPhrases 0 around) plural ≠ [] ↔
      Layer.NamedWithin 0 (layer :: layers) := by
  rw [Wrapping.unwrap_ne_nil_iff (P := False) (by simp [variants]), hnested,
    Layer.namedWithin_zero_iff, hunnamed]
  simp

theorem unwrap_succ_ne_nil_iff {budget : Nat}
    (hinner : ∀ plural, variants asyncPhrases (budget + 1) around w.argument plural ≠ [] ↔
      Layer.NamedWithin budget layers) (plural : Bool) :
    w.unwrap asyncPhrases (variants asyncPhrases (budget + 1) around) plural ≠ [] ↔
      Layer.NamedWithin (budget + 1) (layer :: layers) := by
  rw [Wrapping.unwrap_ne_nil_iff hinner, hnested, Layer.namedWithin_succ_iff]

end Step

/-- The spellings around a type are all longer than its own. -/
def IsShortIn (type : TypeRef) (around : List Text) : Prop :=
  ∀ spelling ∈ around, type.identity.length < spelling.length

section IsShortIn

variable {inner outer : TypeRef} {around : List Text}

theorem IsShortIn.identity_notMem (h : outer.IsShortIn around) : outer.identity ∉ around :=
  fun hmem => Nat.lt_irrefl _ (h _ hmem)

theorem IsShortIn.of_shorter (h : outer.IsShortIn around)
    (hlt : inner.identity.length < outer.identity.length) : inner.IsShortIn around :=
  fun spelling hspelling => Nat.lt_trans hlt (h spelling hspelling)

theorem IsShortIn.cons (h : outer.IsShortIn around)
    (hlt : inner.identity.length < outer.identity.length) :
    inner.IsShortIn (outer.identity :: around) :=
  List.forall_mem_cons.2 ⟨hlt, h.of_shorter hlt⟩

end IsShortIn

/-- The induction is on the layers. That the spellings around a type are longer than its own is the
invariant that keeps the test for repeated spellings from firing. -/
theorem variants_ne_nil_iff (ht : t.wrapping? = none) (hname : Word.breakWords t.name ≠ [])
    (h : IsUnder (.named t) layers type) (asyncPhrases : Bool) (budget : Nat)
    {around : List Text} (hshort : type.IsShortIn around) (plural : Bool) :
    variants asyncPhrases (budget + 1) around type plural ≠ [] ↔
      Layer.NamedWithin budget layers := by
  have hcore : (named t).isNullable = false := by simp [isNullable, wrapping?, ht]
  induction h generalizing budget around plural with
  | bare =>
    exact iff_of_true (variants_core_ne_nil ht hname asyncPhrases budget around plural)
      (Or.inr (by simp))
  | @array layers element h ih =>
    have hnested : (Shape.enumerable = .nullable ∧ element.isNullable = true) ↔
        Layer.NestAt (.array :: layers) 0 :=
      IsUnder.nested_iff (w := ⟨.enumerable, element⟩) h hcore (by simp [Layer.isNullable])
    have hinner := hshort.of_shorter (length_identity_lt_array element)
    rw [variants_array]
    cases budget with
    | zero => exact unwrap_limit_ne_nil_iff hnested rfl plural
    | succ budget => exact unwrap_succ_ne_nil_iff hnested (ih budget hinner) plural
  | @nullable layers inner h ih =>
    have hnested : (Shape.nullable = .nullable ∧ inner.isNullable = true) ↔
        Layer.NestAt (.nullable :: layers) 0 :=
      IsUnder.nested_iff (w := ⟨.nullable, inner⟩) h hcore (by simp [Layer.isNullable])
    have hinner := hshort.of_shorter (length_identity_lt_nullable inner)
    rw [variants_nullable]
    cases budget with
    | zero => exact unwrap_limit_ne_nil_iff hnested rfl plural
    | succ budget => exact unwrap_succ_ne_nil_iff hnested (ih budget hinner) plural
  | @generic layers u w hw h ih =>
    have hnested : w.shape = .nullable ∧ w.argument.isNullable = true ↔
        Layer.NestAt (.generic w.shape :: layers) 0 :=
      h.nested_iff hcore (by cases w.shape <;> simp [Layer.isNullable])
    have hinner := hshort.cons (NamedType.length_identity_lt_of_wrapping? hw)
    cases budget with
    | zero =>
      have hown := NamedType.ownVariants_ne_nil (NamedType.breakWords_name_ne_nil hw) plural
      rw [variants_named_limit]
      exact iff_of_true hown (Layer.namedWithin_zero_iff.2 (Or.inr rfl))
    | succ budget =>
      rw [variants_generic hw hshort.identity_notMem]
      exact unwrap_succ_ne_nil_iff hnested (ih budget hinner) plural

/-- A type that wraps a named core in layers of arrays, nullables and generic types has a name exactly
if one of the layers down to the limit of the unwrapping is a nullable around a nullable, or if the layer
at the limit is a generic type or there is none. -/
theorem decompose_ne_nil_iff (asyncPhrases : Bool) (ht : t.wrapping? = none)
    (hname : Word.breakWords t.name ≠ []) (h : IsUnder (.named t) layers type) :
    type.decompose asyncPhrases ≠ [] ↔
      (∃ place ≤ maxUnwrapping, Layer.NestAt layers place) ∨
        ∀ last ∈ layers[maxUnwrapping]?, last.isNamed = true := by
  rw [decompose, Ne, distinct_eq_nil_iff]
  exact variants_ne_nil_iff ht hname h asyncPhrases maxUnwrapping (List.forall_mem_nil _) false

/-- Eight arrays around a task for a leaf: the task is at the limit and has a name. -/
theorem decompose_ne_nil_iff_task :
    let leaf : NamedType := { name := "Leaf".toList }
    let task : TypeRef := .named { name := "Task".toList, arguments := [.named leaf] }
    let layers := List.replicate 8 .array ++ [.generic .awaitable]
    leaf.wrapping? = none ∧ Word.breakWords leaf.name ≠ [] ∧
      IsUnder (.named leaf) layers (array^[8] task) ∧
      (array^[8] task).decompose false =
        [{ words := [.ofText "Task".toList], plural := true }] ∧
      ((array^[8] task).decompose false ≠ [] ↔
        (∃ place ≤ maxUnwrapping, Layer.NestAt layers place) ∨
          ∀ last ∈ layers[maxUnwrapping]?, last.isNamed = true) := by
  intro leaf task layers
  have hleaf : leaf.wrapping? = none := by decide
  have hname : Word.breakWords leaf.name ≠ [] :=
    Word.breakWords_ne_nil_iff.2 ⟨'L', List.mem_cons_self, by decide⟩
  have htask : IsUnder (.named leaf) [.generic .awaitable] task :=
    .generic (w := ⟨.awaitable, .named leaf⟩) (by decide) .bare
  have hunder : IsUnder (.named leaf) layers (array^[8] task) := htask.arrays 8
  exact ⟨hleaf, hname, hunder, by decide +kernel, decompose_ne_nil_iff false hleaf hname hunder⟩

/-- Nine arrays around a leaf: the ninth is at the limit, and the leaf is not named. -/
theorem decompose_arrays_eq_nil :
    let leaf : NamedType := { name := "Leaf".toList }
    leaf.wrapping? = none ∧ Word.breakWords leaf.name ≠ [] ∧
      IsUnder (.named leaf) (List.replicate 9 .array) (array^[9] (.named leaf)) ∧
      ∀ asyncPhrases, (array^[9] (.named leaf)).decompose asyncPhrases = [] := by
  intro leaf
  have hname : Word.breakWords leaf.name ≠ [] :=
    Word.breakWords_ne_nil_iff.2 ⟨'L', List.mem_cons_self, by decide⟩
  have hunder : IsUnder (.named leaf) [] (.named leaf) := .bare
  exact ⟨by decide, hname, hunder.arrays 9, by decide +kernel⟩

end TypeRef

end Nomenclator
