import Nomenclator.Style.Basic
import Nomenclator.Vocabulary.Reserved
import Nomenclator.Word.Breaking

/-!
# Compliance with a style

A name complies with a style if rendering its own words gives it back. A name that does not comply
can be rendered anew from its words, with or without a marker such as the `m` of `m_count`.

The verbatim mark in front of a name is no part of it.
-/

namespace Nomenclator.Style

/-- The name between the affixes of the style, if it has them both. -/
def middle? (style : Style) (name : Text) : Option Text :=
  (Text.dropPrefix? style.requiredPrefix name).bind (Text.dropSuffix? style.requiredSuffix)

/-- The words of a name as the style delimits them: by its separator, or else by the word
breaker. -/
def delimitedWords (style : Style) (t : Text) : List Word :=
  if style.wordSeparator = [] then Word.breakWords t
  else (Text.splitOnText style.wordSeparator t).map Word.ofText

/-- The name carries the affixes around something, and its words are rendered as the style asks. -/
def isCompliant (style : Style) (name : Text) : Bool :=
  match style.middle? (Reserved.unescape name) with
  | none => false
  | some middle =>
    !middle.isEmpty
      && (style.delimitedWords middle).all (fun w => !w.text.isEmpty)
      && style.renderBody (style.delimitedWords middle) == middle

/-- The name without its verbatim mark and without those affixes of the style that it has. -/
def core (style : Style) (name : Text) : Text :=
  let bare := Reserved.unescape name
  let rest := (Text.dropPrefix? style.requiredPrefix bare).getD bare
  (Text.dropSuffix? style.requiredSuffix rest).getD rest

/-- The name starts with one letter that stands apart, such as `m_` or `s_`. -/
def startsWithMarker : Text → Bool
  | c :: d :: _ => Unicode.isAlphabetic c && !(Unicode.isAlphabetic d || Unicode.isNumeric d)
  | _ => false

/-- Names of the same words in the style: all words first, then, if the name starts with a marker,
the words behind the marker. A name without words has no rendering. -/
def fixes (style : Style) (name : Text) : List Text :=
  let core := style.core name
  match Word.breakWords core with
  | [] => []
  | [w] => [style.render [w]]
  | w :: rest =>
    let whole := style.render (w :: rest)
    if startsWithMarker core && style.render rest != whole then [whole, style.render rest]
    else [whole]

end Nomenclator.Style
