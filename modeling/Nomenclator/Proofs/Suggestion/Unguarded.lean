import Mathlib.Data.List.Basic
import Nomenclator.Proofs.TypeRef.Inheritance
import Nomenclator.Suggestion.Decomposition

/-!
# Unwrapping without limits

The decomposition of a type stops after a limited number of steps, and at a declared type inside one
of the same spelling. `TypeRef.unguarded` is the same recursion with neither test: a type is a finite
tree and a wrapped type is a smaller one, so it ends all the same.

The types that unwrapping goes through are chains: of each type, the next is one that is visited to
unwrap it (`TypeRef.opened`). A type is ordinary if such chains are short and no declared type on
them comes twice. There the tests never fire, and the decomposition is that of the recursion without
them, variant for variant (`TypeRef.decompose_eq_distinct_unguarded`).

What a visit passes on is a budget and the spellings around it. That these fit what is still to come
is the invariant (`TypeRef.Fits`): it holds at the start of an ordinary type, and what holds of a type
holds of the types that it opens with one visit less to spend and its own spelling around them
(`TypeRef.fits_succ_iff`).
-/

namespace Nomenclator

/-! ## The types that are visited next -/

/-- The type that is visited to unwrap another: what it wraps, unless that is a nullable in a
nullable. -/
def Wrapping.opened (w : Wrapping) : List TypeRef :=
  if w.shape = .nullable ∧ w.argument.isNullable then [] else [w.argument]

/-- The types that are visited to unwrap a type by one step. -/
def TypeRef.opened : TypeRef → List TypeRef
  | .array element => [element]
  | .nullable inner => Wrapping.opened { shape := .nullable, argument := inner }
  | .alias _ target => if target.isErroneous then [] else [target]
  | .named t =>
    match t.wrapping? with
    | some w => w.opened
    | none => t.inherited.flatMap Wrapping.opened
  | _ => []

section Congruence

variable {asyncPhrases : Bool} {visit visit' : TypeRef → Bool → List NameVariant}

theorem unwrapNullable_congr {inner : TypeRef} {plural : Bool}
    (h : ∀ type ∈ (TypeRef.nullable inner).opened, visit type = visit' type) :
    unwrapNullable visit inner plural = unwrapNullable visit' inner plural := by
  by_cases hnullable : inner.isNullable = true
  · rw [unwrapNullable, unwrapNullable, if_pos hnullable, if_pos hnullable]
  · have hinner : inner ∈ (TypeRef.nullable inner).opened := by
      simp [TypeRef.opened, Wrapping.opened, hnullable]
    rw [unwrapNullable, unwrapNullable, if_neg hnullable, if_neg hnullable, h inner hinner]

/-- To unwrap a type by one step, the types that it opens are visited and no others. -/
theorem Wrapping.unwrap_congr {w : Wrapping} {plural : Bool}
    (h : ∀ type ∈ w.opened, visit type = visit' type) :
    w.unwrap asyncPhrases visit plural = w.unwrap asyncPhrases visit' plural := by
  obtain ⟨shape, argument⟩ := w
  cases shape with
  | nullable => exact unwrapNullable_congr h
  | enumerable =>
    have hargument : visit argument = visit' argument := h argument (by simp [opened])
    show visit argument true = visit' argument true
    rw [hargument]
  | awaitable =>
    have hargument : visit argument = visit' argument := h argument (by simp [opened])
    show withAsyncPhrases asyncPhrases (visit argument plural) =
      withAsyncPhrases asyncPhrases (visit' argument plural)
    rw [hargument]

theorem NamedType.unwrap_congr {t : NamedType} {plural : Bool}
    (h : ∀ type ∈ (TypeRef.named t).opened, visit type = visit' type) :
    t.unwrap asyncPhrases visit plural = t.unwrap asyncPhrases visit' plural := by
  rw [TypeRef.opened] at h
  unfold NamedType.unwrap
  cases hw : t.wrapping? with
  | some w =>
    rw [hw] at h
    exact Wrapping.unwrap_congr h
  | none =>
    rw [hw] at h
    refine congrArg (t.ownVariants plural ++ ·) (List.flatMap_congr fun w hmem => ?_)
    exact Wrapping.unwrap_congr fun type htype => h type (List.mem_flatMap.2 ⟨w, hmem, htype⟩)

end Congruence

/-! ## The recursion without tests -/

namespace TypeRef

/-- The variants of a type, with no limit to the unwrapping. The recursion is on the argument of a
wrapper and says so, for it to be seen that the trees become smaller; `unguarded_nullable` and
`unguarded_named` have the clauses as they are meant. -/
def unguarded (asyncPhrases : Bool) (type : TypeRef) (plural : Bool) : List NameVariant :=
  match type with
  | .void | .error => []
  | .predefined type =>
    if type.isNameable then NameVariant.ofName type.runtimeName.toList plural else []
  | .typeParameter name => NameVariant.ofName name plural
  | .array element => unguarded asyncPhrases element true
  | .nullable inner => unwrapNullable (fun _ => unguarded asyncPhrases inner) inner plural
  | .alias name target =>
    if target.isErroneous then []
    else NameVariant.ofName name plural ++ unguarded asyncPhrases target plural
  | .named t =>
    match _ : t.wrapping? with
    | some w => w.unwrap asyncPhrases (fun _ => unguarded asyncPhrases w.argument) plural
    | none =>
      t.ownVariants plural ++ t.inherited.attach.flatMap fun w =>
        w.1.unwrap asyncPhrases (fun _ => unguarded asyncPhrases w.1.argument) plural
termination_by sizeOf type
decreasing_by
  all_goals simp only [array.sizeOf_spec, nullable.sizeOf_spec, alias.sizeOf_spec,
    named.sizeOf_spec]
  · omega
  · omega
  · omega
  · have hlt : sizeOf w.argument < sizeOf t := NamedType.sizeOf_argument_lt_of_wrapping? ‹_›
    omega
  · have hlt : sizeOf w.1.argument < sizeOf t :=
      NamedType.sizeOf_argument_lt_of_mem_inherited w.2
    omega

variable {asyncPhrases plural : Bool}

theorem unguarded_nullable (inner : TypeRef) :
    unguarded asyncPhrases (.nullable inner) plural =
      unwrapNullable (unguarded asyncPhrases) inner plural := by
  rw [unguarded, unwrapNullable, unwrapNullable]

/-- A wrapper shows its argument to the visiting function and nothing else. -/
theorem unwrap_const (w : Wrapping) (visit : TypeRef → Bool → List NameVariant) :
    w.unwrap asyncPhrases (fun _ => visit w.argument) plural =
      w.unwrap asyncPhrases visit plural := by
  obtain ⟨shape, argument⟩ := w
  cases shape <;> rfl

theorem unguarded_named (t : NamedType) :
    unguarded asyncPhrases (.named t) plural =
      t.unwrap asyncPhrases (unguarded asyncPhrases) plural := by
  rw [unguarded, NamedType.unwrap]
  split
  · rename_i w hw
    rw [hw]
    exact unwrap_const w (unguarded asyncPhrases)
  · rename_i hw
    rw [hw, List.flatMap_subtype (fun w _ => unwrap_const w (unguarded asyncPhrases)),
      List.unattach_attach]

/-! ## Ordinary types -/

/-- Unwrapping the outer type visits the inner one. -/
def Opens (outer inner : TypeRef) : Prop := inner ∈ outer.opened

/-- The spelling of a declared type. -/
def declaredIdentity? : TypeRef → Option Text
  | .named t => some t.identity
  | _ => none

/-- Unwrapping the type takes fewer steps than are allowed for, and never comes to a declared type
inside one of the same spelling. -/
structure IsOrdinary (type : TypeRef) : Prop where
  shallow : ∀ chain, List.IsChain Opens (type :: chain) → chain.length < maxUnwrapping
  acyclic : ∀ chain, List.IsChain Opens (type :: chain) →
    ((type :: chain).filterMap declaredIdentity?).Nodup

/-- So many visits, and these spellings around the type, are enough for what is still to come: a
visit is left at the end of every chain, and no spelling comes twice. -/
def Fits (budget : Nat) (around : List Text) (type : TypeRef) : Prop :=
  ∀ chain, List.IsChain Opens (type :: chain) →
    chain.length + 1 < budget ∧ ((type :: chain).filterMap declaredIdentity? ++ around).Nodup

theorem fits_iff_isOrdinary {type : TypeRef} :
    Fits (maxUnwrapping + 1) [] type ↔ type.IsOrdinary := by
  constructor
  · intro h
    refine ⟨fun chain hchain => ?_, fun chain hchain => ?_⟩
    · have hlt : chain.length + 1 < maxUnwrapping + 1 := (h chain hchain).1
      omega
    · simpa using (h chain hchain).2
  · rintro ⟨hshallow, hacyclic⟩ chain hchain
    have hlt : chain.length < maxUnwrapping := hshallow chain hchain
    exact ⟨by omega, by simpa using hacyclic chain hchain⟩

/-- The spellings on a chain without the first, once the first is around the rest. -/
theorem nodup_spellings_cons {type : TypeRef} {chain : List TypeRef} {around : List Text} :
    ((type :: chain).filterMap declaredIdentity? ++ around).Nodup ↔
      (chain.filterMap declaredIdentity? ++ (type.declaredIdentity?.toList ++ around)).Nodup := by
  have hcons : (type :: chain).filterMap declaredIdentity? =
      type.declaredIdentity?.toList ++ chain.filterMap declaredIdentity? := by
    cases h : type.declaredIdentity? <;> simp [h]
  rw [hcons, List.append_assoc]
  exact (List.perm_append_comm_assoc _ _ _).nodup_iff

/-- A type fits if there is a visit to spare, its own spelling is not around it, and what it opens
fits with one visit less and that spelling around it. -/
theorem fits_succ_iff {budget : Nat} {around : List Text} {type : TypeRef} :
    Fits (budget + 1) around type ↔
      0 < budget ∧ (type.declaredIdentity?.toList ++ around).Nodup ∧
        ∀ inner ∈ type.opened, Fits budget (type.declaredIdentity?.toList ++ around) inner := by
  constructor
  · intro h
    obtain ⟨hlength, hnodup⟩ := h [] (List.IsChain.singleton type)
    refine ⟨by simpa using hlength, by simpa using nodup_spellings_cons.1 hnodup, ?_⟩
    intro inner hinner chain hchain
    obtain ⟨hlength, hnodup⟩ := h (inner :: chain) (List.isChain_cons_cons.2 ⟨hinner, hchain⟩)
    rw [List.length_cons] at hlength
    exact ⟨by omega, nodup_spellings_cons.1 hnodup⟩
  · rintro ⟨hbudget, hnodup, hopened⟩ chain hchain
    cases chain with
    | nil => exact ⟨by simpa using hbudget, nodup_spellings_cons.2 (by simpa using hnodup)⟩
    | cons inner chain =>
      obtain ⟨hinner, hrest⟩ := List.isChain_cons_cons.1 hchain
      obtain ⟨hlength, hspellings⟩ := hopened inner hinner chain hrest
      rw [List.length_cons]
      exact ⟨by omega, nodup_spellings_cons.2 hspellings⟩

theorem not_fits_zero {around : List Text} {type : TypeRef} : ¬ Fits 0 around type := by
  intro h
  exact absurd (h [] (List.IsChain.singleton type)).1 (by omega)

/-- The chains of a type are looked through one visit at a time. -/
instance decidableFits : (budget : Nat) → (around : List Text) → (type : TypeRef) →
    Decidable (Fits budget around type)
  | 0, _, _ => isFalse not_fits_zero
  | budget + 1, around, type =>
    have : DecidablePred (Fits budget (type.declaredIdentity?.toList ++ around)) :=
      decidableFits budget (type.declaredIdentity?.toList ++ around)
    decidable_of_iff _ fits_succ_iff.symm

instance (type : TypeRef) : Decidable type.IsOrdinary := decidable_of_iff _ fits_iff_isOrdinary

/-! ## Where the tests never fire -/

/-- The induction is on the number of types that may be visited. -/
theorem variants_eq_unguarded {budget : Nat} {around : List Text} {type : TypeRef}
    (h : Fits budget around type) (plural : Bool) :
    variants asyncPhrases budget around type plural = unguarded asyncPhrases type plural := by
  induction budget generalizing around type plural with
  | zero => exact absurd h not_fits_zero
  | succ budget ih =>
    obtain ⟨hbudget, hnodup, hopened⟩ := fits_succ_iff.1 h
    have hvisit : ∀ inner ∈ type.opened,
        variants asyncPhrases budget (type.declaredIdentity?.toList ++ around) inner =
          unguarded asyncPhrases inner :=
      fun inner hinner => funext fun plural => ih (hopened inner hinner) plural
    cases type with
    | void | error | predefined | typeParameter => simp only [variants, unguarded]
    | array element =>
      rw [variants, unguarded]
      exact congrFun (hvisit element (by simp [opened])) true
    | nullable inner =>
      rw [variants, unguarded_nullable]
      exact unwrapNullable_congr hvisit
    | «alias» name target =>
      rw [variants, unguarded]
      by_cases herror : target.isErroneous = true
      · rw [if_pos herror, if_pos herror]
      · have htarget : target ∈ (TypeRef.alias name target).opened := by simp [opened, herror]
        rw [if_neg herror, if_neg herror]
        exact congrArg _ (congrFun (hvisit target htarget) plural)
    | named t =>
      have hfresh : t.identity ∉ around := (List.nodup_cons.1 hnodup).1
      have hguard : ¬ (budget = 0 ∨ t.identity ∈ around) := by
        rintro (hzero | hmem)
        · omega
        · exact hfresh hmem
      rw [variants, unguarded_named, if_neg hguard]
      exact NamedType.unwrap_congr hvisit

/-- The limits of the unwrapping cannot be seen on ordinary types: the decomposition is what the
recursion without them gives, each variant where it comes first. -/
theorem decompose_eq_distinct_unguarded (asyncPhrases : Bool) {type : TypeRef}
    (h : type.IsOrdinary) :
    type.decompose asyncPhrases = distinct (type.unguarded asyncPhrases false) := by
  rw [decompose, variants_eq_unguarded (fits_iff_isOrdinary.2 h)]

/-- A task for a nullable type that is a collection by inheritance. -/
theorem decompose_eq_distinct_unguarded_task :
    let orders : TypeRef := .named
      { name := "Orders".toList
        interfaces := [.named { name := "IList".toList
                                arguments := [.named { name := "Order".toList }] }] }
    let task : TypeRef := .named { name := "Task".toList, arguments := [.nullable orders] }
    task.IsOrdinary ∧ task.decompose true = distinct (task.unguarded true false) := by
  intro orders task
  have h : task.IsOrdinary := by decide +kernel
  exact ⟨h, decompose_eq_distinct_unguarded true h⟩

end TypeRef

end Nomenclator
