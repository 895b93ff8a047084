import Nomenclator.Text.Basic
import Nomenclator.Unicode.Alphabetic
import Nomenclator.Unicode.Uppercase

/-!
# Words

A word is a piece of an identifier together with the mark whether it is an acronym. The mark is
taken when the word is found and stays when the word is inflected, so `IOs` is still an acronym.
-/

namespace Nomenclator

/-- A word of an identifier. -/
structure Word where
  text : Text
  acronym : Bool
  deriving DecidableEq, Repr

namespace Word

/-- An acronym has more than one character and at least one letter, and all its letters are
capitals. -/
def isAcronym (t : Text) : Bool :=
  let letters := t.filter Unicode.isAlphabetic
  decide (1 < t.length) && !letters.isEmpty && letters.all Unicode.isUppercase

/-- The word with this spelling, marked by what the spelling shows. -/
def ofText (t : Text) : Word := ⟨t, isAcronym t⟩

/-- The same word in another spelling. -/
def respell (w : Word) (t : Text) : Word := { w with text := t }

@[simp] theorem text_ofText (t : Text) : (ofText t).text = t := rfl

@[simp] theorem text_respell (w : Word) (t : Text) : (w.respell t).text = t := rfl

@[simp] theorem acronym_respell (w : Word) (t : Text) : (w.respell t).acronym = w.acronym := rfl

/-- The spellings of the words in a row. -/
def joined (ws : List Word) : Text := ws.flatMap text

end Word

end Nomenclator
