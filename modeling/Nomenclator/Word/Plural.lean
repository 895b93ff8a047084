import Nomenclator.Unicode.CaseMapping
import Nomenclator.Word.Basic

/-!
# Plurals

A name for several things is built from the plural of the name for one. Irregular nouns come from
a table; all others follow their ending. The ending is judged without regard to case, and what is
added is in small letters whatever the case of the word (`IO` gives `IOs`).
-/

namespace Nomenclator.Word

/-- Irregular nouns in the singular and the plural. -/
def irregularPlurals : List (String × String) :=
  [("person", "people"), ("child", "children"), ("man", "men"), ("woman", "women"),
    ("foot", "feet"), ("tooth", "teeth"), ("goose", "geese"), ("mouse", "mice"), ("ox", "oxen"),
    ("leaf", "leaves"), ("life", "lives"), ("knife", "knives"), ("half", "halves"),
    ("self", "selves"), ("analysis", "analyses"), ("axis", "axes"), ("basis", "bases"),
    ("crisis", "crises"), ("criterion", "criteria"), ("datum", "data"), ("medium", "media"),
    ("index", "indices"), ("appendix", "appendices"), ("matrix", "matrices"),
    ("vertex", "vertices")]

/-- The plural of an irregular noun in small letters, which may already stand in the plural. -/
def irregularPlural? (noun : Text) : Option Text :=
  (irregularPlurals.find? fun (one, many) => noun == one.toList || noun == many.toList).map
    fun (_, many) => many.toList

/-- The ASCII vowels, in either case. -/
def isVowel (c : Char) : Bool := "aeiou".toList.contains c.toLower

/-- The text in small letters ends with `y` after a letter that is no vowel. -/
def endsInConsonantY (noun : Text) : Bool :=
  match noun.reverse with
  | 'y' :: c :: _ => Unicode.isAlphabetic c && !isVowel c
  | _ => false

/-- The text in small letters ends with a sound that takes `es`. -/
def endsInSibilant (noun : Text) : Bool :=
  ["s", "x", "z", "ch", "sh"].any fun ending => Text.endsWith ending.toList noun

/-- The text with a capital first letter, if the pattern starts with one. -/
def matchFirstLetter (pattern t : Text) : Text :=
  match pattern, t with
  | p :: _, c :: rest => if Unicode.isUppercase p then Unicode.upper c ++ rest else t
  | _, _ => t

/-- The plural of a word. -/
def pluralize (t : Text) : Text :=
  if t = [] then []
  else
    let noun := Unicode.lowercase t
    match irregularPlural? noun with
    | some many => matchFirstLetter t many
    | none =>
      if endsInConsonantY noun then t.dropLast ++ "ies".toList
      else if endsInSibilant noun then t ++ "es".toList
      else t ++ "s".toList

/-- A phrase in the plural: its last word is. -/
def pluralizeLast : List Word → List Word
  | [] => []
  | [w] => [w.respell (pluralize w.text)]
  | w :: v :: ws => w :: pluralizeLast (v :: ws)

end Nomenclator.Word
