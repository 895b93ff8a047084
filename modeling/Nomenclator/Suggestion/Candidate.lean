import Nomenclator.Vocabulary.Identifiers

/-!
# Candidates

A candidate is a name offered for a declaration, with the kind of symbol that it would name. It is
shown with an icon, which is the same for several kinds, and with a fixed description.
-/

namespace Nomenclator

/-- The icons of symbols. -/
inductive Glyph
  | field
  | property
  | event
  | method
  | localVariable
  | parameter
  | typeParameter
  | type
  deriving DecidableEq, Repr

namespace Glyph

/-- The icon of a kind of symbols. Local functions share that of methods, and all types share
one. -/
def ofKind : SymbolKind → Glyph
  | .field => .field
  | .property => .property
  | .event => .event
  | .method | .localFunction => .method
  | .localVariable => .localVariable
  | .parameter => .parameter
  | .typeParameter => .typeParameter
  | .type _ => .type

/-- The identifier of an icon. -/
def identifier : Glyph → String
  | .field => "field"
  | .property => "property"
  | .event => "event"
  | .method => "method"
  | .localVariable => "local"
  | .parameter => "parameter"
  | .typeParameter => "type_parameter"
  | .type => "type"

end Glyph

instance : Identified Glyph where
  members :=
    [.field, .property, .event, .method, .localVariable, .parameter, .typeParameter, .type]
  identifier := Glyph.identifier
  find?_identifier a := by cases a <;> rfl

/-- A name offered for a declaration. -/
structure Candidate where
  text : Text
  kind : SymbolKind
  deriving DecidableEq, Repr

namespace Candidate

/-- The description of every candidate. -/
def description : String := "Suggested name"

/-- The icon shown with a candidate. -/
def glyph (c : Candidate) : Glyph := .ofKind c.kind

/-- A candidate as a JSON value. -/
def toJson (c : Candidate) : Json :=
  .object
    [("text".toList, .string c.text),
      ("kind".toList, Identified.toJson c.kind),
      ("glyph".toList, Identified.toJson c.glyph),
      ("description".toList, .literal description)]

end Candidate

end Nomenclator
