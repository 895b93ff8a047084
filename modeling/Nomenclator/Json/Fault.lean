import Nomenclator.Json.Value

/-!
# Faults of JSON texts

A text is malformed where it is no JSON, or mismatched where it is JSON of another shape than the
reader expected. A fault has a place in the text. A mismatch that was found in a value set aside
has no place of its own and gets that of the value around it.
-/

namespace Nomenclator.Json

/-- A place in a text: the line, from 1, and the number of bytes before it on the line. -/
structure Position where
  line : Nat := 1
  column : Nat := 0
  deriving DecidableEq, Repr

/-- The place behind a character. -/
def Position.past (p : Position) (c : Char) : Position :=
  if c = '\n' then ⟨p.line + 1, 0⟩ else ⟨p.line, p.column + c.utf8Size⟩

/-- The place behind the first byte of a character. -/
def Position.into (p : Position) (c : Char) : Position :=
  if c = '\n' then ⟨p.line + 1, 0⟩ else ⟨p.line, p.column + 1⟩

/-- The place behind the first byte of what is left, or the end. -/
def Position.ahead (p : Position) : Text → Position
  | [] => p
  | c :: _ => p.into c

/-- The place behind so many bytes of what is left. -/
def Position.pastBytes (p : Position) : Nat → Text → Position
  | _, [] => p
  | 0, _ :: _ => p
  | n + 1, c :: t =>
    if c.utf8Size ≤ n + 1 then (p.past c).pastBytes (n + 1 - c.utf8Size) t
    else ⟨p.line, p.column + n + 1⟩

/-- How a text fails to be JSON. -/
inductive Malformation
  | endInList
  | endInObject
  | endInString
  | endBeforeValue
  | expectedColon
  | expectedListCommaOrEnd
  | expectedObjectCommaOrEnd
  | expectedWord
  | expectedValue
  | invalidEscape
  | invalidNumber
  | numberOutOfRange
  | controlCharacterInString
  | keyMustBeString
  | loneSurrogate
  | trailingComma
  | trailingCharacters
  | unexpectedEndOfHexEscape
  | tooDeep
  deriving DecidableEq, Repr

/-- The wording of a malformation. -/
def Malformation.message : Malformation → String
  | .endInList => "EOF while parsing a list"
  | .endInObject => "EOF while parsing an object"
  | .endInString => "EOF while parsing a string"
  | .endBeforeValue => "EOF while parsing a value"
  | .expectedColon => "expected `:`"
  | .expectedListCommaOrEnd => "expected `,` or `]`"
  | .expectedObjectCommaOrEnd => "expected `,` or `\x7d`"
  | .expectedWord => "expected ident"
  | .expectedValue => "expected value"
  | .invalidEscape => "invalid escape"
  | .invalidNumber => "invalid number"
  | .numberOutOfRange => "number out of range"
  | .controlCharacterInString =>
    "control character (\\u0000-\\u001F) found while parsing a string"
  | .keyMustBeString => "key must be a string"
  | .loneSurrogate => "lone leading surrogate in hex escape"
  | .trailingComma => "trailing comma"
  | .trailingCharacters => "trailing characters"
  | .unexpectedEndOfHexEscape => "unexpected end of hex escape"
  | .tooDeep => "recursion limit exceeded"

/-- The text ended where more was due. -/
def Malformation.isEnd : Malformation → Bool
  | .endInList | .endInObject | .endInString | .endBeforeValue => true
  | _ => false

/-- How a value fails to have the shape that the reader expected. -/
inductive Mismatch
  | invalidType (found : Found) (expected : String)
  | invalidValue (found : Found) (expected : String)
  | invalidLength (length : Nat) (expected : String)
  | unknownVariant (name : Text) (known : List String)
  | missingField (name : String)
  | duplicateField (name : String)
  | invalidUuid
  deriving DecidableEq, Repr

/-- The names in backquotes with a comma between them. -/
def listNames (names : List String) : Text :=
  Text.joinWith ", ".toList (names.map fun n => '`' :: n.toList ++ ['`'])

/-- The wording of a mismatch. -/
def Mismatch.message : Mismatch → Text
  | .invalidType found expected =>
    "invalid type: ".toList ++ found.describe ++ ", expected ".toList ++ expected.toList
  | .invalidValue found expected =>
    "invalid value: ".toList ++ found.describe ++ ", expected ".toList ++ expected.toList
  | .invalidLength length expected =>
    "invalid length ".toList ++ (toString length).toList ++ ", expected ".toList
      ++ expected.toList
  | .unknownVariant name known =>
    "unknown variant `".toList ++ name ++ "`, expected one of ".toList ++ listNames known
  | .missingField name => "missing field `".toList ++ name.toList ++ ['`']
  | .duplicateField name => "duplicate field `".toList ++ name.toList ++ ['`']
  | .invalidUuid => "UUID parsing failed".toList

/-- What is wrong with a text, and where. -/
inductive Fault
  | malformed (cause : Malformation) (place : Position)
  | mismatched (cause : Mismatch) (place : Option Position)
  deriving DecidableEq, Repr

/-- The wording of a place. -/
def Position.describe (p : Position) : Text :=
  " at line ".toList ++ (toString p.line).toList ++ " column ".toList
    ++ (toString p.column).toList

/-- The wording of a fault with its place. -/
def Fault.message : Fault → Text
  | .malformed cause place => cause.message.toList ++ place.describe
  | .mismatched cause none => cause.message
  | .mismatched cause (some place) => cause.message ++ place.describe

end Nomenclator.Json
