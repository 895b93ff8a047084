import Nomenclator.Proofs.Suggestion.Phrases

/-!
# Collections are named in the plural

Visiting a type in the plural makes the variants of visiting it in the singular, in the same order, and
puts each of them in the plural (`TypeRef.variants_inPlural`). Both runs visit the same types with the
same limits, for whether names are in the plural decides nothing about what is visited. So an array of a
type is named as a nullable of it is, but in the plural (`TypeRef.decompose_array_eq_inPlural`): no name
is added or lost, and none changes its place. A name that comes both in the singular and in the plural
for the nullable comes once for the array.

Phrases for awaited things stay out of this, for what is plural in a phrase is spelled so in its words.
It is enough to look at decompositions without phrases (`TypeRef.addsPhrases_decompose`).
-/

namespace Nomenclator

namespace NameVariant

/-- The variant as a name for several things. -/
def inPlural (v : NameVariant) : NameVariant := { v with plural := true }

/-- The variants without phrases. -/
def plain (vs : List NameVariant) : List NameVariant := vs.filter fun v => !v.methodPhrase

theorem ofName_inPlural (name : Text) (plural : Bool) :
    ofName name true = (ofName name plural).map inPlural := by
  unfold ofName
  split <;> rfl

theorem ownVariants_inPlural (t : NamedType) (plural : Bool) :
    t.ownVariants true = (t.ownVariants plural).map inPlural := by
  unfold NamedType.ownVariants
  rw [List.map_append, ← ofName_inPlural]
  congr 1
  split
  · split
    · exact ofName_inPlural _ plural
    · rfl
  · rfl

end NameVariant

/-! ## Unwrapping by one step -/

section Steps

open NameVariant

variable {visit : TypeRef → Bool → List NameVariant}

theorem unwrapNullable_inPlural
    (hvisit : ∀ type plural, visit type true = (visit type plural).map inPlural) (inner : TypeRef)
    (plural : Bool) :
    unwrapNullable visit inner true = (unwrapNullable visit inner plural).map inPlural := by
  unfold unwrapNullable
  split
  · rfl
  · exact hvisit inner plural

theorem wrapping_unwrap_inPlural
    (hvisit : ∀ type plural, visit type true = (visit type plural).map inPlural) (w : Wrapping)
    (plural : Bool) :
    w.unwrap false visit true = (w.unwrap false visit plural).map inPlural := by
  obtain ⟨shape, argument⟩ := w
  cases shape with
  | enumerable => exact hvisit argument true
  | awaitable => exact hvisit argument plural
  | nullable => exact unwrapNullable_inPlural hvisit argument plural

theorem namedType_unwrap_inPlural
    (hvisit : ∀ type plural, visit type true = (visit type plural).map inPlural) (t : NamedType)
    (plural : Bool) :
    t.unwrap false visit true = (t.unwrap false visit plural).map inPlural := by
  unfold NamedType.unwrap
  cases t.wrapping? with
  | some w => exact wrapping_unwrap_inPlural hvisit w plural
  | none =>
    simp only [List.map_append, List.map_flatMap, ← ownVariants_inPlural]
    exact congrArg (t.ownVariants true ++ ·)
      (List.flatMap_congr fun w _ => wrapping_unwrap_inPlural hvisit w plural)

end Steps

/-! ## Unwrapping all the way -/

namespace TypeRef

open NameVariant

/-- The induction is on the number of types that may be visited; both runs visit the same types. -/
theorem variants_inPlural (budget : Nat) (around : List Text) (type : TypeRef) (plural : Bool) :
    variants false budget around type true =
      (variants false budget around type plural).map inPlural := by
  induction budget generalizing around type plural with
  | zero => rfl
  | succ budget ih =>
    cases type with
    | void | error => rfl
    | predefined type =>
      simp only [variants]
      split
      · exact ofName_inPlural _ plural
      · rfl
    | typeParameter name => exact ofName_inPlural name plural
    | array element => exact ih around element true
    | nullable inner => exact unwrapNullable_inPlural (ih around) inner plural
    | «alias» name target =>
      simp only [variants]
      split
      · rfl
      · rw [List.map_append, ← ofName_inPlural, ← ih around target plural]
    | named t =>
      simp only [variants]
      split
      · exact ownVariants_inPlural t plural
      · exact namedType_unwrap_inPlural (ih (t.identity :: around)) t plural

theorem plain_decompose (asyncPhrases : Bool) (type : TypeRef) :
    plain (type.decompose asyncPhrases) = type.decompose false :=
  (addsPhrases_decompose asyncPhrases type).filter_eq

/-- Without phrases, an array of a type has the variants of a nullable of it, in the plural. -/
theorem decompose_array {type : TypeRef} (h : type.isNullable = false) :
    (array type).decompose false = distinct (((nullable type).decompose false).map inPlural) := by
  have hnullable : (nullable type).decompose false =
      distinct (variants false maxUnwrapping [] type false) := by
    rw [decompose, variants, unwrapNullable, h]
    rfl
  rw [hnullable, distinct_map_distinct, ← variants_inPlural, decompose, variants]

/-- An array of a type that is no nullable has the variants of a nullable of that type, in the same
order, each of them in the plural and each once. So it is named by the same words in the same order, and
all its names are in the plural. -/
theorem decompose_array_eq_inPlural (asyncPhrases : Bool) {type : TypeRef}
    (h : type.isNullable = false) :
    plain ((array type).decompose asyncPhrases) =
        distinct ((plain ((nullable type).decompose asyncPhrases)).map inPlural) ∧
      plain ((array type).decompose asyncPhrases) =
        (distinct ((plain ((nullable type).decompose asyncPhrases)).map words)).map
          fun words => { words, plural := true } := by
  rw [plain_decompose, plain_decompose]
  refine ⟨decompose_array h, ?_⟩
  have hplain : ∀ v ∈ (nullable type).decompose false, v.methodPhrase = false := by
    intro v hv
    rw [← plain_decompose false] at hv
    simpa using (List.mem_filter.1 hv).2
  have hwords : ((nullable type).decompose false).map inPlural =
      (((nullable type).decompose false).map words).map fun words => { words, plural := true } := by
    rw [List.map_map]
    refine List.map_congr_left fun v hv => ?_
    rw [Function.comp_apply, ← hplain v hv]
    rfl
  have hinjective : Function.Injective fun words => ({ words, plural := true } : NameVariant) :=
    fun _ _ heq => congrArg words heq
  rw [decompose_array h, hwords, distinct_map_of_injective hinjective]

/-- A class of nodes that is a collection of nodes: a nullable of it has the name `Node` for one and for
several, and an array of it has the one for several only, besides that of the alias. -/
theorem decompose_array_eq_inPlural_node :
    let list (type : TypeRef) : TypeRef := .named { name := "IList".toList, arguments := [type] }
    let node : TypeRef := .named
      { name := "Node".toList, interfaces := [list (.named { name := "Node".toList })] }
    let type : TypeRef := .alias "Tree".toList node
    let tree : NameVariant := { words := [.ofText "Tree".toList], plural := false }
    let one : NameVariant := { words := [.ofText "Node".toList], plural := false }
    type.isNullable = false ∧ (nullable type).decompose true = [tree, one, one.inPlural] ∧
      (array type).decompose true = [tree.inPlural, one.inPlural] ∧
      plain ((array type).decompose true) =
        distinct ((plain ((nullable type).decompose true)).map inPlural) ∧
      plain ((array type).decompose true) =
        (distinct ((plain ((nullable type).decompose true)).map words)).map
          fun words => { words, plural := true } := by
  intro list node type tree one
  have h : type.isNullable = false := by decide
  exact ⟨h, by decide +kernel, by decide +kernel, decompose_array_eq_inPlural true h⟩

end TypeRef

end Nomenclator
