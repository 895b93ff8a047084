import Nomenclator.Json.Fault

/-!
# Fields of records

A record is read into a draft, in which every field is empty at first. The fields are filled one by
one, by name or in their order, and at the end the record is made of what they hold.
-/

namespace Nomenclator.Json

variable {α β σ : Type}

/-- A field of a record under construction. `ρ` is what fills it, given where its value comes
from. -/
structure Field (σ ρ : Type) where
  name : String
  /-- The field already has a value. -/
  isFilled : σ → Bool
  /-- The record cannot do without a value. -/
  isRequired : Bool
  /-- How the field is filled. -/
  fill : ρ

/-- The value of a field that must have one. -/
def required (name : String) : Option α → Except Mismatch α
  | some a => .ok a
  | none => .error (.missingField name)

/-- So many elements, in words. -/
def countElements (count : Nat) : String :=
  toString count ++ (if count = 1 then " element" else " elements")

/-- The words for a record that was expected in the place of an array that is too short. -/
def lengthExpected (what : String) (count : Nat) : String :=
  what ++ " with " ++ countElements count

end Nomenclator.Json
