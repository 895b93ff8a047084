import Nomenclator.Word.Breaking
import Nomenclator.Word.Plural

/-!
# Name variants

A name variant is a sequence of words that a name can be built from. Some variants are for several
things, and some are only for what is called, like a method.
-/

namespace Nomenclator

/-- Words that a name can be built from. -/
structure NameVariant where
  words : List Word
  /-- Names built from these words are put in the plural. -/
  plural : Bool
  /-- Only methods and local functions are named so, and only by all the words. -/
  methodPhrase : Bool := false
  deriving DecidableEq, Repr

namespace NameVariant

/-- The words in a row. -/
def joined (v : NameVariant) : Text := Word.joined v.words

/-- The variant for an identifier, which may have no words. -/
def ofName (name : Text) (plural : Bool) : List NameVariant :=
  match Word.breakWords name with
  | [] => []
  | words => [{ words, plural }]

/-- The word that ends a phrase for something awaited. -/
def asyncWord : Word := .ofText "Async".toList

/-- The variant as a phrase for something awaited. What is plural in the variant is so in the words
of the phrase. -/
def asyncPhrase (v : NameVariant) : NameVariant where
  words := (if v.plural then Word.pluralizeLast v.words else v.words) ++ [asyncWord]
  plural := false
  methodPhrase := true

end NameVariant

end Nomenclator
