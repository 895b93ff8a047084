import Nomenclator.Uuid
import Nomenclator.Unicode.CaseMapping
import Nomenclator.Vocabulary.Capitalization
import Nomenclator.Word.Basic

/-!
# Naming styles

A style turns words into a name: it cases each word by its place in the name, puts the separator
between the words, and puts the affixes around them.
-/

namespace Nomenclator

/-- A capitalization scheme with affixes and a separator. -/
structure Style where
  id : Uuid
  name : Text
  capitalization : Capitalization
  requiredPrefix : Text := []
  requiredSuffix : Text := []
  wordSeparator : Text := []
  deriving DecidableEq, Repr

/-! ## Casing a word -/

/-- The text with its first character in upper case. -/
def capitalize : Text → Text
  | [] => []
  | c :: t => Unicode.upper c ++ t

/-- The text with its first character in lower case. -/
def decapitalize : Text → Text
  | [] => []
  | c :: t => Unicode.lower c ++ t

/-- The text with its first character in upper case and the others in lower case. -/
def sentenceCase : Text → Text
  | [] => []
  | c :: t => Unicode.upper c ++ Unicode.lowercase t

/-- The first word of a name under a scheme. An acronym at the start of a camel-cased name is small
as a whole. -/
def Capitalization.caseFirst (scheme : Capitalization) (w : Word) : Text :=
  match scheme with
  | .pascalCase => capitalize w.text
  | .camelCase => if w.acronym then Unicode.lowercase w.text else decapitalize w.text
  | .firstWordUpper => sentenceCase w.text
  | .allUpper => Unicode.uppercase w.text
  | .allLower => Unicode.lowercase w.text

/-- A later word of a name under a scheme. -/
def Capitalization.caseLater (scheme : Capitalization) (w : Word) : Text :=
  match scheme with
  | .pascalCase | .camelCase => capitalize w.text
  | .firstWordUpper | .allLower => Unicode.lowercase w.text
  | .allUpper => Unicode.uppercase w.text

/-- All words of a name under a scheme. -/
def Capitalization.caseWords (scheme : Capitalization) : List Word → List Text
  | [] => []
  | w :: ws => scheme.caseFirst w :: ws.map scheme.caseLater

namespace Style

/-- The words of a name without the affixes. -/
def renderBody (style : Style) (ws : List Word) : Text :=
  Text.joinWith style.wordSeparator (style.capitalization.caseWords ws)

/-- The name that the words make in the style. -/
def render (style : Style) (ws : List Word) : Text :=
  style.requiredPrefix ++ style.renderBody ws ++ style.requiredSuffix

end Style

end Nomenclator
