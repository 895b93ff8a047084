import Nomenclator.Symbol.Basic
import Nomenclator.Uuid

/-!
# Symbol specifications

A specification chooses symbols: by kind, by visibility and by modifiers. An empty list of kinds or
of visibilities chooses all of them, and a symbol without a visibility passes any list of them.
-/

namespace Nomenclator

/-- A named choice of symbols. -/
structure Specification where
  id : Uuid
  name : Text
  kinds : List SymbolKind := []
  accessibilities : List Accessibility := []
  requiredModifiers : List Modifier := []
  deriving DecidableEq, Repr

namespace Specification

/-- The kind is chosen. -/
def acceptsKind (s : Specification) (kind : SymbolKind) : Bool :=
  s.kinds.isEmpty || s.kinds.contains kind

/-- The visibility, if there is one, is chosen. -/
def acceptsAccessibility (s : Specification) : Option Accessibility → Bool
  | none => true
  | some a => s.accessibilities.isEmpty || s.accessibilities.contains a

/-- The symbol is chosen: its kind and its visibility are, and it has all required modifiers. -/
def appliesTo (s : Specification) (symbol : Symbol) : Bool :=
  s.acceptsKind symbol.kind
    && s.acceptsAccessibility symbol.accessibility
    && s.requiredModifiers.all symbol.modifiers.contains

end Specification

end Nomenclator
