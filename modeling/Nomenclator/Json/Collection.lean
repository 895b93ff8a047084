import Nomenclator.Json.Scalar

/-!
# Arrays and objects in JSON texts

Arrays and objects are read element by element. Every element takes at least one character, so a
loop over elements needs no more rounds than there are characters left.

Main definitions: `elements` and `members` read what stands inside a bracket, and `value` reads any
value.
-/

namespace Nomenclator.Json.Reader

variable {α : Type}

/-! ## Brackets and separators -/

/-- Pass the end of an array. -/
def endArray : Reader Unit := do
  match ← expectToken .endInList with
  | ']' => advance
  | ',' => do
    advance
    match ← peekToken with
    | some ']' => malformedNext .trailingComma
    | _ => malformedNext .trailingCharacters
  | _ => malformedNext .trailingCharacters

/-- Pass the end of an object. -/
def endObject : Reader Unit := do
  match ← expectToken .endInObject with
  | '}' => advance
  | ',' => malformedNext .trailingComma
  | _ => malformedNext .trailingCharacters

/-- Read what stands inside a bracket, with one less of them to open, and then the end of it. A
fault inside counts before one at the end, but the end is passed all the same. -/
def inside (close : Reader Unit) (body : Reader α) : Reader α := fun c =>
  match c.room with
  | 0 => malformedNext .tooDeep c
  | room + 1 =>
    match (do advance; body) { c with room } with
    | .done a d =>
      match close d with
      | .done _ e => .done a { e with room := room + 1 }
      | .failed f e => .failed f { e with room := room + 1 }
    | .failed f d =>
      match close d with
      | .done _ e | .failed _ e => .failed f { e with room := room + 1 }

/-- Another element of an array follows: the comma before it has been passed. -/
def hasElement (isFirst : Bool) : Reader Bool := do
  let c ← expectToken .endInList
  if c = ']' then pure false
  else if isFirst then pure true
  else if c = ',' then
    advance
    if (← expectToken .endBeforeValue) = ']' then malformedNext .trailingComma else pure true
  else malformedNext .expectedListCommaOrEnd

/-- Another member of an object follows: the comma before it has been passed. -/
def hasMember (isFirst : Bool) : Reader Bool := do
  let c ← expectToken .endInObject
  if c = '}' then pure false
  else if isFirst then
    if c = '"' then pure true else malformedNext .keyMustBeString
  else if c = ',' then
    advance
    match ← expectToken .endBeforeValue with
    | '"' => pure true
    | '}' => malformedNext .trailingComma
    | _ => malformedNext .keyMustBeString
  else malformedNext .expectedObjectCommaOrEnd

/-- Read the name of a member. -/
def memberName : Reader Text := do advance; stringBody

/-- Pass the colon between the name and the value of a member. -/
def colon : Reader Unit := do
  if (← expectToken .endInObject) = ':' then advance else malformedNext .expectedColon

/-- How many rounds a loop over what is left can take. -/
def rounds : Reader Nat := fun c => .done c.rest.length c

/-! ## Arrays and objects of values -/

/-- Read the elements that follow. -/
def elementsFrom (element : Reader α) (isFirst : Bool) : Nat → Reader (List α)
  | 0 => malformedNext .endInList
  | n + 1 => do
    if ← hasElement isFirst then
      let a ← element
      let rest ← elementsFrom element false n
      pure (a :: rest)
    else pure []

/-- Read the elements of an array up to its end. -/
def elements (element : Reader α) (isFirst : Bool) : Reader (List α) := do
  elementsFrom element isFirst ((← rounds) + 1)

/-- Read the members that follow. -/
def membersFrom (value : Reader α) (isFirst : Bool) : Nat → Reader (List (Text × α))
  | 0 => malformedNext .endInObject
  | n + 1 => do
    if ← hasMember isFirst then
      let name ← memberName
      colon
      let a ← value
      let rest ← membersFrom value false n
      pure ((name, a) :: rest)
    else pure []

/-- Read the members of an object up to its end. -/
def members (value : Reader α) (isFirst : Bool) : Reader (List (Text × α)) := do
  membersFrom value isFirst ((← rounds) + 1)

/-- Read any value that nests no deeper than this. -/
def valueWithin : Nat → Reader Json
  | 0 => located do
    scalarOr (malformedNext .tooDeep) (malformedNext .tooDeep) (← expectToken .endBeforeValue)
  | depth + 1 => located do
    scalarOr
      (inside endArray do pure (.array (← elements (valueWithin depth) true)))
      (inside endObject do pure (.object (← members (valueWithin depth) true)))
      (← expectToken .endBeforeValue)

/-- Read any value. -/
def value : Reader Json := fun c => valueWithin c.room c

end Nomenclator.Json.Reader
