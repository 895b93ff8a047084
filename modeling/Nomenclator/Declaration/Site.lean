import Nomenclator.Symbol.Basic
import Nomenclator.TypeRef.Basic

/-!
# Declaration sites

What is known of a declaration while its name is still to be written: the kinds of symbols that it
may turn out to declare, what is already written before the name, and the names around it.
-/

namespace Nomenclator

/-- A place in a program where a name is to be declared. -/
structure DeclarationSite where
  /-- What the declaration may declare. -/
  possibleKinds : List SymbolKind
  modifiers : ModifierSet := .empty
  accessibility : Option Accessibility := none
  /-- The type before the name, if one is written. -/
  type : Option TypeRef := none
  /-- The names that are already declared in the same scope. -/
  siblingNames : List Text := []
  /-- The site has a name already. -/
  hasName : Bool := false
  deriving DecidableEq

namespace DeclarationSite

/-- The symbol that the site declares if it declares one of this kind. -/
def symbol (site : DeclarationSite) (kind : SymbolKind) : Symbol where
  kind
  accessibility := site.accessibility
  modifiers := site.modifiers

end DeclarationSite

end Nomenclator
