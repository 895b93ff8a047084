import Nomenclator.Json.Fault

/-!
# Readers of JSON texts

A reader takes a value from the front of a text, or fails. Texts are read from front to back, so
the first fault of a text is the one that is reported. A failed reader still says where it stopped,
because a mismatch without a place takes the place where the value around it ends.
-/

namespace Nomenclator.Json

/-- What is left of a text, the place reached, and how many arrays and objects may still be opened
inside one another. -/
structure Cursor where
  rest : Text
  position : Position := {}
  room : Nat := 127
  deriving Repr

/-- What a reader comes to. -/
inductive Outcome (α : Type)
  | done (value : α) (cursor : Cursor)
  | failed (fault : Fault) (cursor : Cursor)

/-- A reader of values at the front of a text. -/
def Reader (α : Type) : Type := Cursor → Outcome α

namespace Reader

variable {α β : Type}

instance : Monad Reader where
  pure a := fun c => .done a c
  bind r k := fun c =>
    match r c with
    | .done a c => k a c
    | .failed f c => .failed f c

/-- Fail with this fault. -/
def fail (f : Fault) : Reader α := fun c => .failed f c

/-- Fail because of a mismatch, at no place yet. -/
def mismatch (m : Mismatch) : Reader α := fail (.mismatched m none)

/-- Fail because of a malformation at the place reached. -/
def malformedHere (m : Malformation) : Reader α := fun c => .failed (.malformed m c.position) c

/-- Fail because of a malformation at the character that comes next. -/
def malformedNext (m : Malformation) : Reader α := fun c =>
  .failed (.malformed m (c.position.ahead c.rest)) c

/-- Fail because of a malformation at a place further on. -/
def malformedAt (m : Malformation) (place : Position) : Reader α := fail (.malformed m place)

/-- The place reached. -/
def place : Reader Position := fun c => .done c.position c

/-- The next character, blanks included. -/
def peek : Reader (Option Char) := fun c => .done c.rest.head? c

/-- A result that may be a mismatch. -/
def ofExcept : Except Mismatch α → Reader α
  | .ok a => pure a
  | .error m => mismatch m

/-- Give a mismatch without a place the place where the reader stopped. -/
def located (r : Reader α) : Reader α := fun c =>
  match r c with
  | .failed (.mismatched m none) c => .failed (.mismatched m (some c.position)) c
  | outcome => outcome

/-- Pass the next character. -/
def advance : Reader Unit := fun c =>
  match c.rest with
  | [] => .done () c
  | d :: rest => .done () { c with rest, position := c.position.past d }

/-- White space between the tokens of a text. -/
def isBlank (c : Char) : Bool := c == ' ' || c == '\n' || c == '\t' || c == '\r'

/-- Pass the blanks at the front of a text. -/
def passBlanks (p : Position) : Text → Text × Position
  | [] => ([], p)
  | c :: t => if isBlank c then passBlanks (p.past c) t else (c :: t, p)

/-- Pass blanks and see the character that comes next. -/
def peekToken : Reader (Option Char) := fun c =>
  let (rest, position) := passBlanks c.position c.rest
  .done rest.head? { c with rest, position }

/-- Pass blanks and see the character that comes next, where the text must not end. -/
def expectToken (atEnd : Malformation) : Reader Char := do
  match ← peekToken with
  | none => malformedNext atEnd
  | some c => pure c

/-- Read the letters of a word such as `true` that are still due. -/
def word : Text → Reader Unit
  | [] => pure ()
  | w :: ws => do
    match ← peek with
    | none => malformedHere .endBeforeValue
    | some d =>
      if d = w then
        advance
        word ws
      else malformedNext .expectedWord

/-- Read a whole text: a value with nothing but blanks around it. -/
def document (r : Reader α) (t : Text) : Except Fault α :=
  let whole : Reader α := do
    let a ← r
    match ← peekToken with
    | none => pure a
    | some _ => malformedNext .trailingCharacters
  match whole ⟨t, {}, 127⟩ with
  | .done a _ => .ok a
  | .failed f _ => .error f

end Reader

end Nomenclator.Json
