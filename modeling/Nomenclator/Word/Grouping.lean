import Nomenclator.Word.Basic

/-!
# Groupings of words

A name can be built from all words of a type's name or from some words at its front or its back.
`groupings` lists these choices, the longer ones first.
-/

namespace Nomenclator.Word

/-- All the words, then for each smaller length the words of that number at the front and the
words of that number at the back. No words give no groupings. -/
def groupings {α : Type} (ws : List α) : List (List α) :=
  match ws.length with
  | 0 => []
  | n + 1 =>
    ws :: (List.range n).reverse.flatMap fun k => [ws.take (k + 1), ws.drop (n - k)]

end Nomenclator.Word
