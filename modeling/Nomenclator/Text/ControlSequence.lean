import Nomenclator.Unicode.DisplayWidth
import Nomenclator.Text.Basic

/-!
# Control sequences in lines

A text may hold control sequences for a terminal, which take no room on a line. A sequence starts with
an escape character. Behind `[` it goes on to the first letter or sign from `@` to `~`, behind `]` to a
bell or to an escape with a backslash, and otherwise it is over with the next character.

Main definitions: `glyphs` are the characters outside the sequences, and `width` is the room that they
take.
-/

namespace Nomenclator.Text

/-- The character that starts a control sequence. -/
def escapeChar : Char := '\x1b'

/-- Where a place is with respect to control sequences. -/
inductive SequencePlace
  | outside
  /-- Behind the escape character. -/
  | begun
  /-- Behind `[`. -/
  | parameters
  /-- Behind `]`, and perhaps right behind an escape character in there. -/
  | quoted (isEscaped : Bool)
  deriving DecidableEq, Repr

namespace SequencePlace

/-- The place behind a character. -/
def next : SequencePlace → Char → SequencePlace
  | .outside, c => if c = escapeChar then .begun else .outside
  | .begun, c => if c = '[' then .parameters else if c = ']' then .quoted false else .outside
  | .parameters, c => if '@' ≤ c ∧ c ≤ '~' then .outside else .parameters
  | .quoted isEscaped, c =>
    if c = '\x07' ∨ (c = '\\' ∧ isEscaped) then .outside else .quoted (c == escapeChar)

/-- The character at this place is outside the sequences. -/
def shows (p : SequencePlace) (c : Char) : Bool := p == .outside && c != escapeChar

/-- How many columns the character at this place takes. -/
def widthOf (p : SequencePlace) (c : Char) : Nat :=
  if p.shows c then Unicode.displayWidth c else 0

end SequencePlace

/-- A character outside the control sequences of a line. -/
structure Glyph where
  char : Char
  /-- How long the line is up to and with the character. -/
  stop : Nat
  deriving DecidableEq, Repr

/-- The glyphs of a line from a place on, behind so many characters. -/
def glyphsFrom (p : SequencePlace) (passed : Nat) : Text → List Glyph
  | [] => []
  | c :: t =>
    let rest := glyphsFrom (p.next c) (passed + 1) t
    if p.shows c then ⟨c, passed + 1⟩ :: rest else rest

/-- The glyphs of a line. -/
def glyphs (t : Text) : List Glyph := glyphsFrom .outside 0 t

/-- How many columns a text takes. -/
def width (t : Text) : Nat :=
  (glyphs t).foldl (fun width g => width + Unicode.displayWidth g.char) 0

end Nomenclator.Text
