import Nomenclator.Rules.Builtin
import Nomenclator.Style.Compliance

/-!
# Checking names against a rule set

The first rule that applies to a symbol governs it. A name that the governing rule's style does not
accept is a violation, which comes with names that the style accepts where there are any.
-/

namespace Nomenclator

/-- A name that breaks the rule governing it. -/
structure Violation where
  /-- The name of the rule's specification. -/
  ruleName : Text
  styleName : Text
  severity : Severity
  name : Text
  /-- Names to use instead, the best one first. -/
  fixes : List Text
  deriving DecidableEq, Repr

namespace RuleSet

/-- The style that names the symbol: the governing rule's, or else the built-in one. -/
def styleFor (p : RuleSet) (symbol : Symbol) : Style :=
  match p.governingRule? symbol with
  | some rule => rule.style
  | none => builtinStyle symbol.kind

/-- What the name of a symbol breaks, if a rule governs the symbol and the name does not comply. -/
def checkName (p : RuleSet) (symbol : Symbol) (name : Text) : Option Violation :=
  match p.governingRule? symbol with
  | none => none
  | some rule =>
    if rule.style.isCompliant name then none
    else some
      { ruleName := rule.specification.name
        styleName := rule.style.name
        severity := rule.severity
        name
        fixes := rule.style.fixes name }

/-- Names of the same words in the style that names the symbol. -/
def compliantNames (p : RuleSet) (symbol : Symbol) (name : Text) : List Text :=
  (p.styleFor symbol).fixes name

end RuleSet

end Nomenclator
