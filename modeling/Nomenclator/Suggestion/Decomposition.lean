import Nomenclator.Distinct
import Nomenclator.Suggestion.Variant
import Nomenclator.TypeRef.Wrapping

/-!
# Decomposition of types into name variants

* Predefined types of numbers, characters and truth values give nothing, and neither do `void` and
  types that could not be resolved. Other predefined types give their run-time name.
* An array or a collection gives the variants of its elements, in the plural.
* An awaitable gives the variants of what is awaited and, if asked for, each of them as a phrase
  that ends in `Async`.
* A nullable gives the variants of what it wraps. A nullable of a nullable gives `Nullable`.
* Any other declared type gives its own name, an interface also its name without a leading `I`, and
  then the variants of what it wraps by inheritance.
* An alias gives its name and then the variants of the type behind it, unless that could not be
  resolved.

A type is unwrapped for a limited number of steps. A declared type at the limit, or inside a type of
the same spelling, gives its own name only.

Main definition: `TypeRef.decompose`.
-/

namespace Nomenclator

/-- How many wrappers are taken off at most. -/
def maxUnwrapping : Nat := 8

/-- An interface name without its leading `I`, if a capital follows that. -/
def stripInterfaceMark? : Text → Option Text
  | 'I' :: c :: rest => if Unicode.isUppercase c then some (c :: rest) else none
  | _ => none

/-- The variants for the name of a declared type. -/
def NamedType.ownVariants (t : NamedType) (plural : Bool) : List NameVariant :=
  NameVariant.ofName t.name plural
    ++ if t.kind = .interfaceType then
        match stripInterfaceMark? t.name with
        | some name => NameVariant.ofName name plural
        | none => []
      else []

/-! ## Unwrapping by one step

The following functions take the variants of the wrapped types as a function of the type and of
whether names are in the plural. -/

/-- The word for a nullable of a nullable. -/
def nullableWord : Word := .ofText "Nullable".toList

/-- The variants of a nullable. -/
def unwrapNullable (visit : TypeRef → Bool → List NameVariant) (inner : TypeRef)
    (plural : Bool) : List NameVariant :=
  if inner.isNullable then
    [{ words := [nullableWord], plural }, { words := [nullableWord], plural := true }]
  else visit inner plural

/-- The variants with the phrases that they make for something awaited. -/
def withAsyncPhrases (asyncPhrases : Bool) (vs : List NameVariant) : List NameVariant :=
  if asyncPhrases then
    vs ++ (vs.filter fun v => !v.methodPhrase).map NameVariant.asyncPhrase
  else vs

/-- The variants of a type that wraps another. -/
def Wrapping.unwrap (asyncPhrases : Bool) (visit : TypeRef → Bool → List NameVariant)
    (w : Wrapping) (plural : Bool) : List NameVariant :=
  match w.shape with
  | .enumerable => visit w.argument true
  | .awaitable => withAsyncPhrases asyncPhrases (visit w.argument plural)
  | .nullable => unwrapNullable visit w.argument plural

/-- The variants of a declared type: of what it wraps by itself, or else its own name and what it
wraps by inheritance. -/
def NamedType.unwrap (asyncPhrases : Bool) (visit : TypeRef → Bool → List NameVariant)
    (t : NamedType) (plural : Bool) : List NameVariant :=
  match t.wrapping? with
  | some w => w.unwrap asyncPhrases visit plural
  | none =>
    t.ownVariants plural
      ++ t.inherited.flatMap fun w => w.unwrap asyncPhrases visit plural

/-! ## Unwrapping all the way -/

namespace TypeRef

/-- The variants of a type, given how many more types may be visited and the spellings of the
declared types around it. -/
def variants (asyncPhrases : Bool) :
    Nat → List Text → TypeRef → Bool → List NameVariant
  | 0, _, _, _ => []
  | budget + 1, around, type, plural =>
    match type with
    | .void | .error => []
    | .predefined type =>
      if type.isNameable then NameVariant.ofName type.runtimeName.toList plural else []
    | .typeParameter name => NameVariant.ofName name plural
    | .array element => variants asyncPhrases budget around element true
    | .nullable inner => unwrapNullable (variants asyncPhrases budget around) inner plural
    | .alias name target =>
      if target.isErroneous then []
      else NameVariant.ofName name plural ++ variants asyncPhrases budget around target plural
    | .named type =>
      if budget = 0 ∨ type.identity ∈ around then type.ownVariants plural
      else
        type.unwrap asyncPhrases (variants asyncPhrases budget (type.identity :: around)) plural

/-- The variants of a type, each one once. -/
def decompose (asyncPhrases : Bool) (type : TypeRef) : List NameVariant :=
  distinct (variants asyncPhrases (maxUnwrapping + 1) [] type false)

end TypeRef

end Nomenclator
