import Nomenclator.Declaration.Site
import Nomenclator.Distinct
import Nomenclator.Rules.Checking
import Nomenclator.Suggestion.Candidate
import Nomenclator.Suggestion.Memo
import Nomenclator.Suggestion.Ranking
import Nomenclator.Word.Grouping

/-!
# Suggesting names

The names suggested at a declaration site are the renderings of the variants of its type, in the
style for each kind of symbols that it may declare. A variant is rendered by its groupings, a method
phrase only as a whole. Names of one character and names that a sibling has are left out, and a name
that is suggested for several kinds stays with the first of them. A reserved word is suggested with
the verbatim mark.

Main definition: `RuleSet.suggest`.
-/

namespace Nomenclator

/-! ## Names of a variant -/

namespace NameVariant

/-- The words that names are made of: all of them, or also some at the front or at the back. -/
def phrases (v : NameVariant) : List (List Word) :=
  if v.methodPhrase then [v.words] else Word.groupings v.words

/-- The names that the variant makes in a style. -/
def names (v : NameVariant) (style : Style) : List Text :=
  v.phrases.map fun words => style.render (if v.plural then Word.pluralizeLast words else words)

/-- The variant makes names for this kind in this style. A style whose names end in `Async` already
needs no phrase that does. -/
def isFor (v : NameVariant) (kind : SymbolKind) (style : Style) : Bool :=
  !v.methodPhrase || (kind.isMethodLike && !Text.endsWith "Async".toList style.requiredSuffix)

end NameVariant

/-! ## Names at a site -/

namespace DeclarationSite

/-- A sibling has the name, with the verbatim mark or without. -/
def isTaken (site : DeclarationSite) (name : Text) : Bool :=
  site.siblingNames.any fun sibling => Reserved.unescape sibling == name

/-- The name may be suggested. -/
def isOpen (site : DeclarationSite) (name : Text) : Bool :=
  decide (1 < name.length) && !site.isTaken name

/-- What has to be decomposed to suggest names, if names can be suggested at all. Phrases for awaited
things are asked for where the site declares something asynchronous that is called. -/
def question? (site : DeclarationSite) : Option Question :=
  if site.hasName then none
  else if site.possibleKinds.isEmpty then none
  else
    site.type.map fun type =>
      { type
        asyncPhrases := site.possibleKinds.any SymbolKind.isMethodLike
          && site.modifiers.contains .async }

end DeclarationSite

namespace RuleSet

/-- The candidates for one kind, with repetitions. -/
def candidatesFor (p : RuleSet) (site : DeclarationSite) (variants : List NameVariant)
    (kind : SymbolKind) : List Candidate :=
  let style := p.styleFor (site.symbol kind)
  let names := (variants.filter fun v => v.isFor kind style).flatMap fun v => v.names style
  (names.filter site.isOpen).map fun name => ⟨Reserved.escape name, kind⟩

/-- The candidates of variants, each text once. -/
def candidates (p : RuleSet) (site : DeclarationSite) (variants : List NameVariant) :
    List Candidate :=
  distinctBy Candidate.text
    ((rankedKinds site.possibleKinds).flatMap (p.candidatesFor site variants))

/-- The names suggested at a site. -/
def suggest (p : RuleSet) (site : DeclarationSite) : List Candidate :=
  match site.question? with
  | none => []
  | some q => p.candidates site (q.type.decompose q.asyncPhrases)

/-- The names suggested at a site, with decompositions taken from a memo. -/
def suggestFrom (p : RuleSet) (m : Memo) (site : DeclarationSite) : List Candidate × Memo :=
  match site.question? with
  | none => ([], m)
  | some q =>
    let (answer, m) := m.ask q
    (p.candidates site answer.variants, m)

end RuleSet

end Nomenclator
