import Nomenclator.Json.Field
import Nomenclator.Json.Identified

/-!
# Values set aside

Some values can only be understood once a tag among their parts is known. They are read as plain
JSON first and taken apart afterwards. What is wrong with such a value has no place of its own.

Main definitions: `recordOf` makes a record of the parts of an array or an object, and
`asMember` takes a value for the identifier of a member.
-/

namespace Nomenclator.Json

variable {α β σ : Type}

/-- The parts of an array or of an object, in order. -/
inductive Parts (α : Type)
  | items (items : List α)
  | members (members : List (Text × α))

/-! ## Records -/

/-- A field that is filled by what a part is taken for. -/
def heldField (name : String) (isRequired : Bool) (get : σ → Option β) (set : σ → β → σ)
    (take : α → Except Mismatch β) : Field σ (α → σ → Except Mismatch σ) where
  name
  isFilled draft := (get draft).isSome
  isRequired
  fill part draft := (take part).map (set draft)

/-- Fill the fields in their order, and return what is left of the parts. The fields of missing
parts stay empty if they may. -/
def fillInOrder (expected : String) (index : Nat) :
    List (Field σ (α → σ → Except Mismatch σ)) → List α → σ → Except Mismatch (σ × List α)
  | [], parts, draft => .ok (draft, parts)
  | field :: fields, [], draft =>
    if field.isRequired then .error (.invalidLength index expected)
    else fillInOrder expected (index + 1) fields [] draft
  | field :: fields, part :: parts, draft => do
    fillInOrder expected (index + 1) fields parts (← field.fill part draft)

/-- Fill the fields by name. -/
def fillByName (fields : List (Field σ (α → σ → Except Mismatch σ))) :
    List (Text × α) → σ → Except Mismatch σ
  | [], draft => .ok draft
  | (name, part) :: parts, draft => do
    match fields.find? fun field => field.name.toList == name with
    | none => fillByName fields parts draft
    | some field =>
      if field.isFilled draft then .error (.duplicateField field.name)
      else fillByName fields parts (← field.fill part draft)

/-- The complaint about an array with more elements than fields. -/
def tooLong (length count : Nat) : Mismatch :=
  .invalidLength length (countElements count ++ " in sequence")

/-- Make a record of parts. -/
def recordOf (what : String) (fields : List (Field σ (α → σ → Except Mismatch σ))) (start : σ)
    (finish : σ → Except Mismatch β) : Parts α → Except Mismatch β
  | .items items => do
    let (draft, rest) ← fillInOrder (lengthExpected what fields.length) 0 fields items start
    let b ← finish draft
    if rest.isEmpty then pure b else .error (tooLong items.length fields.length)
  | .members members => do
    finish (← fillByName fields members start)

/-! ## Values -/

/-- Take a value for a string. -/
def asText : Json → Except Mismatch Text
  | .string t => .ok t
  | v => .error (.invalidType v.found "a string")

/-- Take a value for nothing: it is `null` or an object without members. -/
def asNothing : Json → Except Mismatch Unit
  | .null | .object [] => .ok ()
  | v => .error (.invalidType v.found "unit")

/-- Take a value for the identifier of a member, or for an object that maps it to nothing. -/
def asMember [Identified α] : Json → Except Mismatch α
  | .string t => Identified.resolve t
  | .object [(name, v)] => do
    let a ← Identified.resolve name
    asNothing v
    pure a
  | .object _ => .error (.invalidValue .map "map with a single key")
  | v => .error (.invalidType v.found "string or map")

end Nomenclator.Json
