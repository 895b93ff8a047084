import Nomenclator.Json.Typed

/-!
# Types written by identifiers

The members of some small types are written in JSON texts as strings, one identifier for each
member.

Main statement: `ofIdentifier?_identifier` says that an identifier is read back as its member.
-/

namespace Nomenclator

/-- A type whose members are written by identifiers of their own. -/
class Identified (α : Type) where
  /-- All members, in the order in which an error message lists them. -/
  members : List α
  /-- The identifier of a member. -/
  identifier : α → String
  /-- A member is the first one, and so the only one, with its identifier. -/
  find?_identifier : ∀ a,
    (members.find? fun b => (identifier b).toList == (identifier a).toList) = some a

namespace Identified

variable {α : Type} [Identified α]

/-- The member with this identifier. -/
def ofIdentifier? (t : Text) : Option α := members.find? fun a => (identifier a).toList == t

/-- All identifiers. -/
def identifiers (α : Type) [Identified α] : List String := (members : List α).map identifier

/-- The member with this identifier, or the complaint that there is none. -/
def resolve (t : Text) : Except Json.Mismatch α :=
  match ofIdentifier? t with
  | some a => .ok a
  | none => .error (.unknownVariant t (identifiers α))

/-- A member as a JSON value. -/
def toJson (a : α) : Json := .literal (identifier a)

theorem ofIdentifier?_identifier (a : α) : ofIdentifier? (identifier a).toList = some a :=
  find?_identifier a

theorem resolve_identifier (a : α) : resolve (identifier a).toList = Except.ok a := by
  simp [resolve, ofIdentifier?_identifier]

end Identified

/-- Read a member by its identifier. -/
def Json.Reader.member {α : Type} [Identified α] : Json.Reader α :=
  Json.Reader.variant Identified.resolve

end Nomenclator
