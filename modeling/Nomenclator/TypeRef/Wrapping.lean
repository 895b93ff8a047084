import Nomenclator.TypeRef.Basic
import Nomenclator.Vocabulary.Shape

/-!
# Types that wrap another type

A well-known generic type with exactly one argument wraps that argument. Other types wrap what their
interfaces and base types wrap: of the collections among these the nearest counts, and of the
awaitables too, while a nullable is not inherited.

Main definitions: `NamedType.wrapping?` is what a type wraps by itself and `NamedType.inherited`
what it wraps by inheritance.
-/

namespace Nomenclator

/-- A shape with the type that it wraps. -/
structure Wrapping where
  shape : Shape
  argument : TypeRef
  deriving DecidableEq

/-- What the type wraps by itself. Its name is looked up in full if it has a namespace, and among the
simple names if it has none. -/
def NamedType.wrapping? (t : NamedType) : Option Wrapping :=
  match t.arguments with
  | [argument] =>
    let shape? :=
      if t.scope = [] then Shape.ofSimpleName? t.name else Shape.ofQualifiedName? t.qualifiedName
    shape?.map fun shape => { shape, argument }
  | _ => none

namespace TypeRef

/-- What a declared type wraps by itself; other types wrap nothing in this sense. -/
def wrapping? : TypeRef → Option Wrapping
  | .named t => t.wrapping?
  | _ => none

/-- The type is a nullable, in short or in full. -/
def isNullable : TypeRef → Bool
  | .nullable _ => true
  | t => t.wrapping?.any fun w => w.shape = .nullable

/-- The type could not be resolved, possibly behind aliases. -/
def isErroneous : TypeRef → Bool
  | .error => true
  | .alias _ target => target.isErroneous
  | _ => false

end TypeRef

/-! ## Inheritance -/

/-- Types inherit what a shape does from their interfaces and base types. -/
def Shape.isInheritable : Shape → Bool
  | .enumerable | .awaitable => true
  | .nullable => false

/-- The rank of a shape; what has a smaller rank comes first. -/
def Shape.rank : Shape → Nat
  | .enumerable => 0
  | .awaitable => 1
  | .nullable => 2

namespace Inherited

/-- Put a wrapping behind those found, if its shape can be inherited and none of them has it. -/
def add (found : List Wrapping) (w : Wrapping) : List Wrapping :=
  if w.shape.isInheritable && !(found.any fun v => v.shape = w.shape) then found ++ [w] else found

/-- Add what the types of a list wrap. -/
def addAll (found : List Wrapping) (types : List TypeRef) : List Wrapping :=
  (types.filterMap TypeRef.wrapping?).foldl add found

/-- Add what the declared types on a chain of base types and their interfaces wrap, for so many
steps up the chain. -/
def addBases : Nat → Option TypeRef → List Wrapping → List Wrapping
  | n + 1, some (.named base), found =>
    addBases n base.base (addAll (addAll found [.named base]) base.interfaces)
  | _, _, found => found

/-- The wrappings by rank, those of one rank in the order in which they were found. -/
def sort (found : List Wrapping) : List Wrapping :=
  (List.range 3).flatMap fun rank => found.filter fun w => w.shape.rank = rank

end Inherited

/-- How many base types are looked at. -/
def maxInheritance : Nat := 8

/-- What the type wraps by inheritance. -/
def NamedType.inherited (t : NamedType) : List Wrapping :=
  Inherited.sort (Inherited.addBases maxInheritance t.base (Inherited.addAll [] t.interfaces))

end Nomenclator
