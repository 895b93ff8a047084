import Nomenclator.Json.Held
import Nomenclator.TypeRef.Basic
import Nomenclator.Vocabulary.Identifiers

/-!
# Type references as JSON texts

A type reference is written as an object whose member `kind` says which form it has. In reading, the
tag may stand anywhere in the object, or the form may be given by the first element of an array.
Until the tag is known the other parts are held as plain JSON; they are taken apart afterwards.

Main definitions: `TypeRef.toJson` and `TypeRef.reader`.
-/

namespace Nomenclator

open Json Json.Reader

namespace TypeRef

/-! ## Forms -/

/-- The forms of type references. -/
inductive Form
  | predefined
  | named
  | array
  | nullable
  | alias
  | typeParameter
  | void
  | error
  deriving DecidableEq, Repr

/-- The identifier of a form. -/
def Form.identifier : Form → String
  | .predefined => "predefined"
  | .named => "named"
  | .array => "array"
  | .nullable => "nullable"
  | .alias => "alias"
  | .typeParameter => "type_parameter"
  | .void => "void"
  | .error => "error"

instance : Identified Form where
  members := [.predefined, .named, .array, .nullable, .alias, .typeParameter, .void, .error]
  identifier := Form.identifier
  find?_identifier a := by cases a <;> rfl

/-- The member that holds the form. -/
def tag : String := "kind"

/-- What is expected where a type reference is. -/
def expected : String := "internally tagged enum TypeRef"

/-- Take a held value for a form: by its identifier or by its place among the forms. -/
def Form.ofJson : Json → Except Mismatch Form
  | .string t => Identified.resolve t
  | .integer (.ofNat n) =>
    match (Identified.members : List Form)[n]? with
    | some form => .ok form
    | none => .error (.invalidValue (.integer n) "variant index 0 <= i < 8")
  | v => .error (.invalidType v.found "variant identifier")

/-! ## Writing -/

/-- The members of the object for a type reference of a form. -/
def tagged (form : Form) (members : List (Text × Json)) : Json :=
  .object ((tag.toList, Identified.toJson form) :: members)

end TypeRef

mutual

/-- A type reference as a JSON value. -/
def TypeRef.toJson : TypeRef → Json
  | .predefined type => TypeRef.tagged .predefined [("id".toList, Identified.toJson type)]
  | .named type => TypeRef.tagged .named type.membersToJson
  | .array element => TypeRef.tagged .array [("element".toList, element.toJson)]
  | .nullable inner => TypeRef.tagged .nullable [("inner".toList, inner.toJson)]
  | .alias name target =>
    TypeRef.tagged .alias [("name".toList, .string name), ("target".toList, target.toJson)]
  | .typeParameter name => TypeRef.tagged .typeParameter [("name".toList, .string name)]
  | .void => TypeRef.tagged .void []
  | .error => TypeRef.tagged .error []

/-- The fields of a declared type as members of a JSON object. -/
def NamedType.membersToJson : NamedType → List (Text × Json)
  | ⟨name, scope, kind, arguments, base, interfaces⟩ =>
    [("name".toList, .string name),
      ("namespace".toList, .string scope),
      ("type_kind".toList, Identified.toJson kind),
      ("type_arguments".toList, .array (TypeRef.listToJson arguments)),
      ("base_type".toList, TypeRef.optionToJson base),
      ("interfaces".toList, .array (TypeRef.listToJson interfaces))]

/-- Type references as JSON values. -/
def TypeRef.listToJson : List TypeRef → List Json
  | [] => []
  | t :: ts => t.toJson :: TypeRef.listToJson ts

/-- A type reference or `null`. -/
def TypeRef.optionToJson : Option TypeRef → Json
  | none => .null
  | some t => t.toJson

end

namespace TypeRef

/-! ## Taking held values apart -/

/-- A held value with what it is as a type reference and as a list of them. -/
structure Held where
  value : Json
  asType : Except Mismatch TypeRef
  asTypes : Except Mismatch (List TypeRef)

/-- Take a held value for a type reference or for none. -/
def Held.asOptional (h : Held) : Except Mismatch (Option TypeRef) :=
  match h.value with
  | .null => .ok none
  | _ => h.asType.map some

/-- What has been read of a type reference. -/
structure Draft where
  id : Option PredefinedType := none
  name : Option Text := none
  scope : Option Text := none
  kind : Option TypeKind := none
  arguments : Option (List TypeRef) := none
  base : Option (Option TypeRef) := none
  interfaces : Option (List TypeRef) := none
  element : Option TypeRef := none
  inner : Option TypeRef := none
  target : Option TypeRef := none

/-- A field of a type reference. -/
abbrev DraftField := Field Draft (Held → Draft → Except Mismatch Draft)

/-- The name of a declared type, an alias or a type parameter. -/
def nameField : DraftField :=
  heldField "name" true (·.name) (fun d a => { d with name := some a }) (·.value.asText)

/-- The fields of a declared type in their order. -/
def namedFields : List DraftField :=
  [nameField,
    heldField "namespace" false (·.scope) (fun d a => { d with scope := some a })
      (·.value.asText),
    heldField "type_kind" false (·.kind) (fun d a => { d with kind := some a })
      (·.value.asMember),
    heldField "type_arguments" false (·.arguments) (fun d a => { d with arguments := some a })
      (·.asTypes),
    heldField "base_type" false (·.base) (fun d a => { d with base := some a })
      Held.asOptional,
    heldField "interfaces" false (·.interfaces) (fun d a => { d with interfaces := some a })
      (·.asTypes)]

/-- What an array was expected to be instead, if it is too short for its form. -/
def Form.what : Form → String
  | .predefined => "struct variant TypeRef::Predefined"
  | .named => "struct NamedType"
  | .array => "struct variant TypeRef::Array"
  | .nullable => "struct variant TypeRef::Nullable"
  | .alias => "struct variant TypeRef::Alias"
  | .typeParameter => "struct variant TypeRef::TypeParameter"
  | .void | .error => "unit"

/-- The fields of a form in their order. -/
def Form.fields : Form → List DraftField
  | .predefined =>
    [heldField "id" true (·.id) (fun d a => { d with id := some a }) (·.value.asMember)]
  | .named => namedFields
  | .array =>
    [heldField "element" true (·.element) (fun d a => { d with element := some a }) (·.asType)]
  | .nullable =>
    [heldField "inner" true (·.inner) (fun d a => { d with inner := some a }) (·.asType)]
  | .alias =>
    [nameField,
      heldField "target" true (·.target) (fun d a => { d with target := some a }) (·.asType)]
  | .typeParameter => [nameField]
  | .void | .error => []

/-- The declared type that was read. -/
def Draft.finishNamed (d : Draft) : Except Mismatch NamedType := do
  let name ← required "name" d.name
  pure
    { name
      scope := d.scope.getD []
      kind := d.kind.getD .classType
      arguments := d.arguments.getD []
      base := d.base.getD none
      interfaces := d.interfaces.getD [] }

/-- The type reference of a form that was read. -/
def Draft.finish (d : Draft) : Form → Except Mismatch TypeRef
  | .predefined => (required "id" d.id).map .predefined
  | .named => d.finishNamed.map .named
  | .array => (required "element" d.element).map .array
  | .nullable => (required "inner" d.inner).map .nullable
  | .alias => do
    let name ← required "name" d.name
    let target ← required "target" d.target
    pure (.alias name target)
  | .typeParameter => (required "name" d.name).map .typeParameter
  | .void => .ok .void
  | .error => .ok .error

/-- The type reference of a form with these parts. A form without fields passes over all
members. -/
def ofParts (form : Form) (parts : Parts Held) : Except Mismatch TypeRef :=
  recordOf form.what form.fields {} (fun d => d.finish form) parts

/-- The form among held members, and the other members. -/
def takeForm : Option Form → List (Text × Held) → Except Mismatch (Form × List (Text × Held))
  | form, [] => (required tag form).map fun form => (form, [])
  | form, (name, part) :: parts => do
    if name = tag.toList then
      if form.isSome then .error (.duplicateField tag)
      else takeForm (some (← Form.ofJson part.value)) parts
    else
      let (form, rest) ← takeForm form parts
      pure (form, (name, part) :: rest)

/-- The type reference with these held members. -/
def ofMembers (members : List (Text × Held)) : Except Mismatch TypeRef := do
  let (form, rest) ← takeForm none members
  ofParts form (.members rest)

/-- The type reference with these held elements. -/
def ofItems : List Held → Except Mismatch TypeRef
  | [] => .error (.missingField tag)
  | first :: rest => do ofParts (← Form.ofJson first.value) (.items rest)

mutual

/-- What a value is as a type reference and as a list of them. -/
def hold : Json → Held
  | .array items =>
    let held := holdItems items
    ⟨.array items, ofItems held, held.mapM Held.asType⟩
  | .object members =>
    ⟨.object members, ofMembers (holdMembers members),
      .error (.invalidType .map "a sequence")⟩
  | v => ⟨v, .error (.invalidType v.found expected), .error (.invalidType v.found "a sequence")⟩

/-- What the elements of an array are. -/
def holdItems : List Json → List Held
  | [] => []
  | v :: vs => hold v :: holdItems vs

/-- What the members of an object are. -/
def holdMembers : List (Text × Json) → List (Text × Held)
  | [] => []
  | (name, v) :: vs => (name, hold v) :: holdMembers vs

end

/-! ## Reading -/

/-- Read a form by its identifier. -/
def Form.reader : Json.Reader Form := stringAs "variant identifier" Identified.resolve

/-- Read the members of an object: the form, and the others as plain JSON. -/
def taggedMembers (isFirst : Bool) (form : Option Form) :
    Nat → Json.Reader (Form × List (Text × Json))
  | 0 => malformedNext .endInObject
  | n + 1 => do
    if ← hasMember isFirst then
      let name ← memberName
      if name = tag.toList then
        if form.isSome then Json.Reader.mismatch (.duplicateField tag)
        else
          colon
          taggedMembers false (some (← Form.reader)) n
      else
        colon
        let v ← value
        let (form, rest) ← taggedMembers false form n
        pure (form, (name, v) :: rest)
    else
      let form ← ofExcept (required tag form)
      pure (form, [])

/-- Read the elements of an array: the form, and the others as plain JSON. -/
def taggedItems : Json.Reader (Form × List Json) := do
  if ← hasElement true then
    let form ← Form.reader
    let rest ← elements value false
    pure (form, rest)
  else Json.Reader.mismatch (.missingField tag)

/-- Read the form and the parts of a type reference. -/
def partsReader : Json.Reader (Form × Parts Held) := located do
  match ← expectToken .endBeforeValue with
  | '[' => do
    let (form, items) ← inside endArray taggedItems
    pure (form, .items (holdItems items))
  | '{' => do
    let (form, members) ← inside endObject do taggedMembers true none ((← rounds) + 1)
    pure (form, .members (holdMembers members))
  | c => unexpected expected c

/-- Read a type reference. -/
def reader : Json.Reader TypeRef := do
  let (form, parts) ← partsReader
  ofExcept (ofParts form parts)

/-- Read the text of a type reference. -/
def parse (t : Text) : Except Fault TypeRef := document reader t

end TypeRef

end Nomenclator
