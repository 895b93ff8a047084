import Nomenclator.Config.Reading
import Nomenclator.Suggestion.Basic

/-!
# Completion

A completion answers requests for names one after the other, under one rule set. It can be switched
off, and it can remember decompositions from one request to the next.
-/

namespace Nomenclator

/-- How names are completed. -/
structure CompletionOptions where
  /-- Names are suggested at all. -/
  showNameSuggestions : Bool := true
  /-- Decompositions are remembered. -/
  cacheDecompositions : Bool := true
  deriving DecidableEq, Repr

/-- A rule set at the service of requests. -/
structure Completion where
  rules : RuleSet
  options : CompletionOptions := {}
  memo : Memo := .empty
  deriving DecidableEq

namespace Completion

/-- The completion that a configuration asks for. -/
def ofConfig (config : NamingConfig) : Completion where
  rules := config.rules
  options := { showNameSuggestions := config.showNameSuggestions }

/-- The candidates at a site, and the completion for the next request. -/
def provide (c : Completion) (site : DeclarationSite) : List Candidate × Completion :=
  if !c.options.showNameSuggestions then ([], c)
  else if c.options.cacheDecompositions then
    let (candidates, memo) := c.rules.suggestFrom c.memo site
    (candidates, { c with memo })
  else (c.rules.suggest site, c)

/-- The candidates at several sites in turn. -/
def provideAll (c : Completion) : List DeclarationSite → List (List Candidate)
  | [] => []
  | site :: sites =>
    let (candidates, c) := c.provide site
    candidates :: c.provideAll sites

end Completion

end Nomenclator
