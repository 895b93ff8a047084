import Nomenclator.Text.BreakOpportunity
import Nomenclator.Text.ControlSequence
import Nomenclator.Unicode.Alphabetic
import Nomenclator.Unicode.Numeric

/-!
# Wrapping lines

A long line is broken into lines that are not wider than allowed, each filled as far as it goes. A
line is taken apart in three steps: into words at the places where it may be broken, into parts behind
the hyphens of words, and into pieces of what is too wide for any line. Blanks behind a word stand
between it and the next one, and not at the end of a line. The first line and the others start with
an indentation of their own.

Main definition: `Text.wrap`. That taking apart loses no character is `flatten_pieces`.
-/

namespace Nomenclator.Text

open Unicode

/-! ## Words -/

/-- The text cut at places that count the characters before them; `passed` of those are gone. -/
def cutAt (passed : Nat) (t : Text) : List Nat → List Text
  | [] => [t]
  | place :: places =>
    t.take (place - passed) :: cutAt place (t.drop (place - passed)) places

theorem flatten_cutAt (passed : Nat) (t : Text) (places : List Nat) :
    (cutAt passed t places).flatten = t := by
  induction places generalizing passed t with
  | nil => simp [cutAt]
  | cons place places ih => simp [cutAt, ih]

/-- A hyphen, visible or not. Breaks behind hyphens are up to the words. -/
def isHyphen (c : Char) : Bool := c == '-' || c == '\xad'

/-- The places between the words of a line. The last place found is none of them, as it is the end of
the line, or it is left alone because a hyphen ends the line. -/
def wordPlaces (line : Text) : List Nat :=
  let line := glyphs line
  let places := (line.zip (breaksBehind (line.map Glyph.char))).filter fun (g, breaks) =>
    breaks && !isHyphen g.char
  (places.map fun (g, _) => g.stop).dropLast

/-- The words of a line, with the blanks behind them. -/
def lineWords (line : Text) : List Text := cutAt 0 line (wordPlaces line)

/-! ## Parts of words -/

/-- A letter or a digit. -/
def isWordLike (c : Char) : Bool := isAlphabetic c || isNumeric c

/-- A word may be broken behind a hyphen between two letters or digits. -/
def isInnerHyphen (before : Option Char) (c : Char) (after : Option Char) : Bool :=
  c == '-' && before.any isWordLike && after.any isWordLike

/-- The parts of a word between the places where it may be broken, given the character in front. -/
def hyphenParts (before : Option Char) : Text → List Text
  | [] => []
  | c :: t =>
    match hyphenParts (some c) t with
    | [] => [[c]]
    | p :: ps => if isInnerHyphen before c t.head? then [c] :: p :: ps else (c :: p) :: ps

theorem flatten_hyphenParts (before : Option Char) (t : Text) :
    (hyphenParts before t).flatten = t := by
  induction t generalizing before with
  | nil => rfl
  | cons c t ih =>
    have ht := ih (some c)
    simp only [hyphenParts]
    split
    · next h =>
      rw [h] at ht
      simp [← ht]
    · next p ps h =>
      rw [h] at ht
      split <;> simp [← ht]

/-- A text cut before each character that would make a piece wider than the limit, given the piece
that was begun and its width. -/
def cutWide (limit : Nat) (p : SequencePlace) (piece : Text) (width : Nat) : Text → List Text
  | [] => [piece]
  | c :: t =>
    let w := p.widthOf c
    if p.shows c ∧ 0 < width ∧ limit < width + w then
      piece :: cutWide limit (p.next c) [c] w t
    else cutWide limit (p.next c) (piece ++ [c]) (width + w) t

theorem flatten_cutWide (limit : Nat) (p : SequencePlace) (piece : Text) (width : Nat) (t : Text) :
    (cutWide limit p piece width t).flatten = piece ++ t := by
  induction t generalizing p piece width with
  | nil => simp [cutWide]
  | cons c t ih =>
    simp only [cutWide]
    split <;> simp [ih]

/-- The part as it is, or in pieces if it is too wide. -/
def fit (limit : Nat) (part : Text) : List Text :=
  if width part ≤ limit then [part] else cutWide limit .outside [] 0 part

theorem flatten_fit (limit : Nat) (part : Text) : (fit limit part).flatten = part := by
  unfold fit
  split
  · simp
  · simp [flatten_cutWide]

/-! ## Pieces -/

/-- What is put on a line in one go: a text and the number of blanks behind it. -/
structure Piece where
  text : Text
  blanks : Nat := 0
  deriving DecidableEq, Repr

/-- The characters of a piece. -/
def Piece.toText (p : Piece) : Text := p.text ++ List.replicate p.blanks ' '

/-- The pieces of a list of texts, with blanks behind the last one. -/
def Piece.ofTexts (blanks : Nat) : List Text → List Piece
  | [] => [⟨[], blanks⟩]
  | [t] => [⟨t, blanks⟩]
  | t :: u :: ts => ⟨t, 0⟩ :: ofTexts blanks (u :: ts)

theorem Piece.flatMap_toText_ofTexts (blanks : Nat) (ts : List Text) :
    (Piece.ofTexts blanks ts).flatMap Piece.toText = ts.flatten ++ List.replicate blanks ' ' := by
  induction ts with
  | nil => simp [ofTexts, toText]
  | cons t ts ih =>
    cases ts with
    | nil => simp [ofTexts, toText]
    | cons u ts => simp [ofTexts, toText, ih]

/-- The number of blanks at the end of a text. -/
def endBlanks (t : Text) : Nat := (t.reverse.takeWhile (· == ' ')).length

/-- The text without the blanks at its end. -/
def dropEndBlanks (t : Text) : Text := (t.reverse.dropWhile (· == ' ')).reverse

theorem takeWhile_blank (t : Text) :
    t.takeWhile (· == ' ') = List.replicate (t.takeWhile (· == ' ')).length ' ' := by
  induction t with
  | nil => rfl
  | cons c t ih =>
    by_cases hc : c = ' '
    · rw [hc, List.takeWhile_cons_of_pos (by simp), List.length_cons, List.replicate_succ, ← ih]
    · rw [List.takeWhile_cons_of_neg (by simpa using hc)]
      rfl

theorem dropEndBlanks_append (t : Text) :
    dropEndBlanks t ++ List.replicate (endBlanks t) ' ' = t := by
  have hwhole : t.reverse.takeWhile (· == ' ') ++ t.reverse.dropWhile (· == ' ') = t.reverse :=
    List.takeWhile_append_dropWhile
  rw [takeWhile_blank] at hwhole
  have hback := congrArg List.reverse hwhole
  simpa [dropEndBlanks, endBlanks] using hback

/-- The pieces of a word. -/
def wordPieces (limit : Nat) (word : Text) : List Piece :=
  Piece.ofTexts (endBlanks word) ((hyphenParts none (dropEndBlanks word)).flatMap (fit limit))

theorem flatten_flatMap_fit (limit : Nat) (parts : List Text) :
    (parts.flatMap (fit limit)).flatten = parts.flatten := by
  induction parts with
  | nil => rfl
  | cons p ps ih => simp [flatten_fit, ih]

theorem flatMap_toText_wordPieces (limit : Nat) (word : Text) :
    (wordPieces limit word).flatMap Piece.toText = word := by
  rw [wordPieces, Piece.flatMap_toText_ofTexts, flatten_flatMap_fit, flatten_hyphenParts,
    dropEndBlanks_append]

/-- The pieces of a line. -/
def pieces (limit : Nat) (line : Text) : List Piece :=
  (lineWords line).flatMap (wordPieces limit)

theorem flatten_pieces (limit : Nat) (line : Text) :
    (pieces limit line).flatMap Piece.toText = line := by
  have hwords (words : List Text) :
      (words.flatMap (wordPieces limit)).flatMap Piece.toText = words.flatten := by
    induction words with
    | nil => rfl
    | cons w ws ih => simp [flatMap_toText_wordPieces, ih]
  rw [pieces, hwords, lineWords, flatten_cutAt]

/-! ## Lines -/

/-- Pieces in lines, given the line that was begun, its width and the blanks that are due on it: each
piece goes to the end of the line if it fits there. -/
def fillLines (limit : Nat) (line : Text) (used blanks : Nat) : List Piece → List Text
  | [] => [line]
  | p :: ps =>
    let w := width p.text
    if used + blanks + w ≤ limit then
      fillLines limit (line ++ List.replicate blanks ' ' ++ p.text) (used + blanks + w) p.blanks ps
    else line :: fillLines limit p.text w p.blanks ps

/-- The line in lines that are not wider than allowed. -/
def wrapLine (limit : Nat) (line : Text) : List Text :=
  fillLines limit [] 0 0 (pieces limit line)

/-- The text in lines that are not wider than allowed with the indentation, which is `first` on the
first line and `others` on the others. Both are equally wide. -/
def wrap (first others : Text) (limit : Nat) (t : Text) : Text :=
  match (splitOn '\n' t).flatMap (wrapLine (limit - width first)) with
  | [] => first
  | line :: rest => joinWith ['\n'] ((first ++ line) :: rest.map fun l => others ++ l)

end Nomenclator.Text
