import Nomenclator.Json.Field
import Nomenclator.Json.Skipping

/-!
# Records in JSON texts

A record is read from an object, whose members may stand in any order and may be joined by members
that the record does not know, or from an array, whose elements stand for the fields in their order.

Main definition: `record`.
-/

namespace Nomenclator.Json.Reader

variable {α β σ : Type}

/-- A field that is filled by what a reader reads. -/
def fieldOf (name : String) (isRequired : Bool) (get : σ → Option β) (set : σ → β → σ)
    (r : Reader β) : Field σ (σ → Reader σ) where
  name
  isFilled draft := (get draft).isSome
  isRequired
  fill draft := do
    let b ← r
    pure (set draft b)

/-- Fill the fields in their order from the elements of an array. The fields of missing elements
stay empty if they may. -/
def fieldsInOrder (expected : String) (index : Nat) :
    List (Field σ (σ → Reader σ)) → σ → Reader σ
  | [], draft => pure draft
  | field :: fields, draft => do
    if ← hasElement (index == 0) then
      fieldsInOrder expected (index + 1) fields (← field.fill draft)
    else if field.isRequired then mismatch (.invalidLength index expected)
    else fieldsInOrder expected (index + 1) fields draft

/-- Fill the fields by name from the members of an object. -/
def fieldsByName (fields : List (Field σ (σ → Reader σ))) (isFirst : Bool) :
    Nat → σ → Reader σ
  | 0, _ => malformedNext .endInObject
  | n + 1, draft => do
    if ← hasMember isFirst then
      let name ← memberName
      match fields.find? fun field => field.name.toList == name with
      | none =>
        colon
        skipValue
        fieldsByName fields false n draft
      | some field =>
        if field.isFilled draft then mismatch (.duplicateField field.name)
        else
          colon
          fieldsByName fields false n (← field.fill draft)
    else pure draft

/-- Read a record: fill its fields, and make the record of them unless a field that must have a
value has none. -/
def record (what : String) (fields : List (Field σ (σ → Reader σ))) (start : σ)
    (finish : σ → Except Mismatch α) : Reader α := located do
  match ← expectToken .endBeforeValue with
  | '[' => inside endArray do
    ofExcept (finish (← fieldsInOrder (lengthExpected what fields.length) 0 fields start))
  | '{' => inside endObject do
    ofExcept (finish (← fieldsByName fields true ((← rounds) + 1) start))
  | c => unexpected what c

end Nomenclator.Json.Reader
