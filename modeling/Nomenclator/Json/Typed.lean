import Nomenclator.Json.Collection

/-!
# Values of a known shape

Readers of strings, truth values, arrays of one shape, values that may be `null`, and identifiers
of variants. A value of another shape is a mismatch.
-/

namespace Nomenclator.Json.Reader

variable {α : Type}

/-- Read a string and what it stands for. -/
def stringAs (expected : String) (f : Text → Except Mismatch α) : Reader α := located do
  match ← expectToken .endBeforeValue with
  | '"' => advance; ofExcept (f (← stringBody))
  | c => unexpected expected c

/-- Read a string. -/
def string : Reader Text := stringAs "a string" .ok

/-- Read a truth value. -/
def boolean : Reader Bool := located do
  match ← expectToken .endBeforeValue with
  | 't' => advance; word "rue".toList; pure true
  | 'f' => advance; word "alse".toList; pure false
  | c => unexpected "a boolean" c

/-- Read an array of values of one shape. -/
def list (element : Reader α) : Reader (List α) := located do
  match ← expectToken .endBeforeValue with
  | '[' => inside endArray (elements element true)
  | c => unexpected "a sequence" c

/-- Read a value or `null`. -/
def optional (r : Reader α) : Reader (Option α) := do
  if (← peekToken) = some 'n' then
    advance
    word "ull".toList
    pure none
  else
    let a ← r
    pure (some a)

/-- Read `null` as the content of a variant. -/
def unit : Reader Unit := located do
  match ← expectToken .endBeforeValue with
  | 'n' => advance; word "ull".toList
  | c => unexpected "unit" c

/-- Read the name of a variant as the key of an object. An object without a key and a key that is
no string are malformed. -/
def variantKey (ofName : Text → Except Mismatch α) : Reader α := do
  match ← expectToken .endInObject with
  | '"' => stringAs "variant identifier" ofName
  | '}' => malformedNext .expectedValue
  | _ => malformedNext .keyMustBeString

/-- Read the name of a variant, or an object that maps the name to `null`. -/
def variant (ofName : Text → Except Mismatch α) : Reader α := do
  match ← expectToken .endBeforeValue with
  | '"' => stringAs "variant identifier" ofName
  | '{' => do
    let a ← inside (pure ()) do
      let a ← variantKey ofName
      colon
      unit
      pure a
    match ← peekToken with
    | some '}' => advance; pure a
    | some _ => malformedHere .expectedValue
    | none => malformedHere .endInObject
  | _ => malformedNext .expectedValue

end Nomenclator.Json.Reader
