import Nomenclator.Text.Basic

/-!
# Shapes of generic types

Some generic types of one argument only wrap their argument: a collection holds several of it, an
awaitable delivers it later, a nullable may lack it. Names are derived from the argument then.
-/

namespace Nomenclator

/-- What a well-known generic type does with its one argument. -/
inductive Shape
  | enumerable
  | awaitable
  | nullable
  deriving DecidableEq, Repr

namespace Shape

/-- The well-known generic types by their full names. -/
def wellKnown : List (String × Shape) :=
  [("System.Collections.Generic.IEnumerable", .enumerable),
    ("System.Collections.Generic.ICollection", .enumerable),
    ("System.Collections.Generic.IList", .enumerable),
    ("System.Collections.Generic.IReadOnlyCollection", .enumerable),
    ("System.Collections.Generic.IReadOnlyList", .enumerable),
    ("System.Collections.Generic.List", .enumerable),
    ("System.Collections.Generic.ISet", .enumerable),
    ("System.Collections.Generic.HashSet", .enumerable),
    ("System.Collections.Generic.Queue", .enumerable),
    ("System.Collections.Generic.Stack", .enumerable),
    ("System.Collections.Immutable.ImmutableArray", .enumerable),
    ("System.Collections.Immutable.ImmutableList", .enumerable),
    ("System.Linq.IQueryable", .enumerable),
    ("System.Threading.Tasks.Task", .awaitable),
    ("System.Threading.Tasks.ValueTask", .awaitable),
    ("System.Nullable", .nullable)]

/-- The part of a full name behind its last dot. -/
def simpleName (qualified : Text) : Text :=
  match Text.splitLast? '.' qualified with
  | none => qualified
  | some (_, name) => name

/-- The shape of the type with this full name. -/
def ofQualifiedName? (name : Text) : Option Shape :=
  (wellKnown.find? fun entry => entry.1.toList == name).map (·.2)

/-- The shape of the type with this simple name, where no namespace is known. -/
def ofSimpleName? (name : Text) : Option Shape :=
  (wellKnown.find? fun entry => simpleName entry.1.toList == name).map (·.2)

end Shape

end Nomenclator
