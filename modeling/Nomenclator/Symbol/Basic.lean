import Nomenclator.Symbol.Modifiers
import Nomenclator.Vocabulary.Accessibility
import Nomenclator.Vocabulary.SymbolKind

/-!
# Symbols

A symbol is what naming rules look at: the kind of a declaration, its visibility if it has one, and
the modifiers written on it. Its name is not part of it.
-/

namespace Nomenclator

/-- The parts of a declaration that a naming rule can choose by. -/
structure Symbol where
  kind : SymbolKind
  /-- Nothing for symbols without a declared visibility, such as locals. -/
  accessibility : Option Accessibility := none
  modifiers : ModifierSet := .empty
  deriving DecidableEq, Repr

namespace Symbol

/-- The symbol as it would be declared: visibility, modifiers, kind. -/
def describe (s : Symbol) : Text :=
  let visibility := match s.accessibility with
    | none => []
    | some a => a.canonical.toList ++ [' ']
  let modifiers := if s.modifiers.isEmpty then [] else s.modifiers.render ++ [' ']
  visibility ++ modifiers ++ s.kind.canonical.toList

end Symbol

end Nomenclator
