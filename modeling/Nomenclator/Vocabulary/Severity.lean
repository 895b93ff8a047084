import Nomenclator.Vocabulary.Basic

/-!
# Severities

How loudly a broken naming rule is reported, from not at all to as an error.
-/

namespace Nomenclator

/-- The severities, from the quietest to the loudest. -/
inductive Severity
  | none
  | silent
  | suggestion
  | warning
  | error
  deriving DecidableEq, Repr

namespace Severity

/-- The place of a severity in the order of loudness. -/
def rank : Severity → Nat
  | .none => 0
  | .silent => 1
  | .suggestion => 2
  | .warning => 3
  | .error => 4

instance : LT Severity := ⟨fun a b => a.rank < b.rank⟩

instance (a b : Severity) : Decidable (a < b) := inferInstanceAs (Decidable (a.rank < b.rank))

/-- The severity of a rule that names none. -/
instance : Inhabited Severity := ⟨.suggestion⟩

/-- The token of a severity. -/
def canonical : Severity → String
  | .none => "none"
  | .silent => "silent"
  | .suggestion => "suggestion"
  | .warning => "warning"
  | .error => "error"

/-- The other tokens of a severity. -/
def aliases : Severity → List String
  | .silent => ["refactoring"]
  | .suggestion => ["info"]
  | _ => []

/-- How a severity is shown. -/
def description : Severity → String
  | .none => "Never reported."
  | .silent => "Available to fixers, not shown."
  | .suggestion => "Shown as a hint."
  | .warning => "Shown as a warning."
  | .error => "Shown as an error."

end Severity

instance : Vocabulary Severity where
  entries := [.none, .silent, .suggestion, .warning, .error]
  canonical := Severity.canonical
  aliases := Severity.aliases
  description := Severity.description

end Nomenclator
