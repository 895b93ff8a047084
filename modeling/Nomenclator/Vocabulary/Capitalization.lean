import Nomenclator.Vocabulary.Basic

/-!
# Capitalization schemes

How the words of a name are cased, by their place in the name.
-/

namespace Nomenclator

/-- The capitalization schemes. -/
inductive Capitalization
  /-- Every word starts with a capital: `FirstSecondThird`. -/
  | pascalCase
  /-- Every word but the first starts with a capital: `firstSecondThird`. -/
  | camelCase
  /-- Only the first word starts with a capital: `First second third`. -/
  | firstWordUpper
  /-- All letters are capitals: `FIRST SECOND THIRD`. -/
  | allUpper
  /-- All letters are small: `first second third`. -/
  | allLower
  deriving DecidableEq, Repr

namespace Capitalization

/-- The token of a scheme. -/
def canonical : Capitalization → String
  | .pascalCase => "pascal_case"
  | .camelCase => "camel_case"
  | .firstWordUpper => "first_word_upper"
  | .allUpper => "all_upper"
  | .allLower => "all_lower"

/-- What a scheme asks for. -/
def description : Capitalization → String
  | .pascalCase => "Every word starts with an upper-case letter."
  | .camelCase => "Every word but the first starts with an upper-case letter."
  | .firstWordUpper => "Only the first letter of the first word is upper-case."
  | .allUpper => "Every letter is upper-case."
  | .allLower => "Every letter is lower-case."

end Capitalization

instance : Vocabulary Capitalization where
  entries := [.pascalCase, .camelCase, .firstWordUpper, .allUpper, .allLower]
  canonical := Capitalization.canonical
  aliases _ := []
  description := Capitalization.description

end Nomenclator
