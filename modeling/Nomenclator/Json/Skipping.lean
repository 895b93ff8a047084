import Nomenclator.Json.Collection

/-!
# Values that nobody asked for

A member that a record does not know is passed over. Its value must be JSON, but numbers may have
any size, escapes of surrogates need no partner, and there is no bound on how deep the value nests.

Main definition: `skipValue`.
-/

namespace Nomenclator.Json.Reader

/-- What a skipped value is inside of. -/
inductive Enclosure
  | list
  | object
  deriving DecidableEq

/-- Pass the digits of a number that nobody asked for. -/
def skipDigits : Reader Unit := do let _ ← digits

/-- Pass a digit that must come next, and those behind it. -/
def skipSomeDigits : Reader Unit := do
  let next ← peek
  if next.any Char.isDigit then skipDigits else malformedNext .invalidNumber

/-- Pass the exponent of a number behind its `e`. -/
def skipExponent : Reader Unit := do
  let sign ← peek
  if sign = some '+' ∨ sign = some '-' then advance
  skipSomeDigits

/-- Pass a number behind its sign. Its size does not matter. -/
def skipNumber : Reader Unit := do
  let first ← peek
  if first = some '0' then
    advance
    let next ← peek
    if next.any Char.isDigit then malformedNext .invalidNumber
  else skipSomeDigits
  match ← peek with
  | some '.' =>
    advance
    skipSomeDigits
    match ← peek with
    | some 'e' | some 'E' => advance; skipExponent
    | _ => pure ()
  | some 'e' | some 'E' => advance; skipExponent
  | _ => pure ()

/-- Pass the name of a member and the colon behind it. -/
def skipName : Reader Unit := do
  if (← expectToken .endInObject) = '"' then advance else malformedNext .keyMustBeString
  skipStringBody
  colon

/-- Where the skipping of a value stands: before a value, behind an opening bracket, or behind a
value. -/
inductive SkipState
  | beforeValue
  | opened (e : Enclosure)
  | behindValue

/-- The end of the text inside an enclosure. -/
def Enclosure.atEnd : Enclosure → Malformation
  | .list => .endInList
  | .object => .endInObject

/-- The closing bracket of an enclosure. -/
def Enclosure.closing : Enclosure → Char
  | .list => ']'
  | .object => '}'

/-- Anything but a comma or the end behind a value of an enclosure. -/
def Enclosure.expected : Enclosure → Malformation
  | .list => .expectedListCommaOrEnd
  | .object => .expectedObjectCommaOrEnd

/-- Before an element of an enclosure there is nothing, before a member its name. -/
def Enclosure.skipFront : Enclosure → Reader Unit
  | .list => pure ()
  | .object => skipName

/-- Pass the scalar or the opening bracket at the front. -/
def skipFront : Reader SkipState := do
  match ← expectToken .endBeforeValue with
  | 'n' => advance; word "ull".toList; pure .behindValue
  | 't' => advance; word "rue".toList; pure .behindValue
  | 'f' => advance; word "alse".toList; pure .behindValue
  | '-' => advance; skipNumber; pure .behindValue
  | '"' => advance; skipStringBody; pure .behindValue
  | '[' => advance; pure (.opened .list)
  | '{' => advance; pure (.opened .object)
  | c => if c.isDigit then do skipNumber; pure .behindValue else malformedNext .expectedValue

/-- Pass the rest of a value, given what it is inside of, the innermost first. There is no bound on
how deep such a value nests. -/
def skipFrom : Nat → List Enclosure → SkipState → Reader Unit
  | 0, _, _ => malformedNext .endBeforeValue
  | n + 1, around, .beforeValue => do skipFrom n around (← skipFront)
  | n + 1, around, .opened e => do
    if (← expectToken e.atEnd) = e.closing then
      advance
      skipFrom n around .behindValue
    else
      e.skipFront
      skipFrom n (e :: around) .beforeValue
  | _ + 1, [], .behindValue => pure ()
  | n + 1, e :: around, .behindValue => do
    let c ← expectToken e.atEnd
    if c = ',' then
      advance
      e.skipFront
      skipFrom n (e :: around) .beforeValue
    else if c = e.closing then
      advance
      skipFrom n around .behindValue
    else malformedNext e.expected

/-- Pass a value, which must be JSON but may be anything. -/
def skipValue : Reader Unit := do skipFrom (2 * (← rounds) + 2) [] .beforeValue

end Nomenclator.Json.Reader
