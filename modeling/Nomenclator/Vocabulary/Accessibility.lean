import Nomenclator.Vocabulary.Basic

/-!
# Accessibility

From where a declaration may be used.
-/

namespace Nomenclator

/-- The levels of declared visibility. -/
inductive Accessibility
  | publicLevel
  | internalLevel
  | privateLevel
  | protectedLevel
  | protectedInternalLevel
  deriving DecidableEq, Repr

namespace Accessibility

/-- The token of a level. -/
def canonical : Accessibility → String
  | .publicLevel => "public"
  | .internalLevel => "internal"
  | .privateLevel => "private"
  | .protectedLevel => "protected"
  | .protectedInternalLevel => "protected_internal"

/-- The other tokens of a level. -/
def aliases : Accessibility → List String
  | .internalLevel => ["friend"]
  | .protectedInternalLevel => ["protected_friend"]
  | _ => []

/-- Who sees a declaration of a level. -/
def description : Accessibility → String
  | .publicLevel => "Visible everywhere."
  | .internalLevel => "Visible within the containing assembly."
  | .privateLevel => "Visible within the containing type."
  | .protectedLevel => "Visible within the containing type and derived types."
  | .protectedInternalLevel => "Visible to derived types or within the containing assembly."

end Accessibility

instance : Vocabulary Accessibility where
  entries :=
    [.publicLevel, .internalLevel, .privateLevel, .protectedLevel, .protectedInternalLevel]
  canonical := Accessibility.canonical
  aliases := Accessibility.aliases
  description := Accessibility.description

/-- Every level is listed. -/
theorem Accessibility.mem_entries (a : Accessibility) :
    a ∈ (Vocabulary.entries : List Accessibility) := by
  cases a <;> decide

end Nomenclator
