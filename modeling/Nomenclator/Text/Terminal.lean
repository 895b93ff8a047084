import Nomenclator.Text.Basic

/-!
# Texts without control sequences

What is left of a text when everything that would steer a terminal is taken out: control characters
other than those for blanks and line ends, and whole control sequences. A sequence starts with an
escape character; what follows it says how far the sequence goes. Any other escape character inside
starts a new sequence, and the two characters that cancel a sequence end it.

Main definition: `Terminal.plain`.
-/

namespace Nomenclator.Terminal

/-- What a terminal takes the next character for. -/
inductive Mode
  /-- Text to show. -/
  | ground
  /-- The kind of a sequence. -/
  | escape
  /-- The end of a short sequence. -/
  | intermediate
  /-- A parameter, or the letter or sign that ends a sequence with parameters. -/
  | parameters
  /-- A part of a command to the operating system, which a bell may end. -/
  | command
  /-- A part of a string that only the next sequence ends. -/
  | string
  deriving DecidableEq, Repr

/-- A control for a blank or the end of a line. -/
def isLayout (c : Char) : Bool := c == '\t' || c == '\n' || c == '\x0c' || c == '\r'

/-- A character is shown where text is to be shown. -/
def isShown (c : Char) : Bool := (decide (' ' ≤ c) && c != '\x7f') || isLayout c

/-- The character starts a sequence of the kind that it names, or is all of one. -/
def Mode.ofKind (c : Char) : Mode :=
  if c = '[' then .parameters
  else if c = ']' then .command
  else if c = 'P' ∨ c = 'X' ∨ c = '^' ∨ c = '_' then .string
  else if c < '0' then .intermediate
  else .ground

/-- What the character inside a sequence makes of the mode. A sequence holds ASCII only. -/
def Mode.within (m : Mode) (c : Char) : Mode :=
  if '\x7f' < c then .ground
  else
    match m with
    | .ground => .ground
    | .command => if c = '\x07' then .ground else .command
    | .string => .string
    | .escape => if c < ' ' ∨ c = '\x7f' then .escape else .ofKind c
    | .intermediate => if c < '0' ∨ c = '\x7f' then .intermediate else .ground
    | .parameters => if c < '@' ∨ c = '\x7f' then .parameters else .ground

/-- A control for layout is obeyed in this mode. -/
def Mode.obeysLayout (m : Mode) : Bool := m != .command && m != .string

/-- The mode behind a character, and whether the character is shown. -/
def Mode.step (m : Mode) (c : Char) : Mode × Bool :=
  if c = '\x1b' then (.escape, false)
  else if c = '\x18' ∨ c = '\x1a' then (.ground, false)
  else if m = .ground then (.ground, isShown c)
  else if isLayout c ∧ m.obeysLayout then (.ground, true)
  else (m.within c, false)

/-- What a terminal in this mode shows of a text. -/
def plainFrom (m : Mode) : Text → Text
  | [] => []
  | c :: t =>
    let (m, shown) := m.step c
    if shown then c :: plainFrom m t else plainFrom m t

/-- What a terminal shows of a text. -/
def plain (t : Text) : Text := plainFrom .ground t

end Nomenclator.Terminal
