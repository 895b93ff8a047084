import Nomenclator.Text.Quoted

/-!
# JSON values

A JSON value is a scalar, an array of values, or an object, whose members keep their order and may
share a name. Numbers that are no integers of 64 bits are kept by their shortest spelling.
-/

namespace Nomenclator

/-- A JSON value. -/
inductive Json
  | null
  | boolean (b : Bool)
  | integer (n : Int)
  | decimal (spelling : Text)
  | string (t : Text)
  | array (items : List Json)
  | object (members : List (Text × Json))

namespace Json

/-- The JSON string of a literal. -/
def literal (s : String) : Json := .string s.toList

/-- What a value is to a reader who expected another. -/
inductive Found
  | null
  | boolean (b : Bool)
  | integer (n : Int)
  | decimal (spelling : Text)
  | string (t : Text)
  | sequence
  | map
  deriving DecidableEq, Repr

/-- The words for what was found. -/
def Found.describe : Found → Text
  | .null => "null".toList
  | .boolean b => "boolean `".toList ++ (if b then "true" else "false").toList ++ ['`']
  | .integer n => "integer `".toList ++ (toString n).toList ++ ['`']
  | .decimal spelling => "floating point `".toList ++ spelling ++ ['`']
  | .string t => "string ".toList ++ Text.quoted t
  | .sequence => "sequence".toList
  | .map => "map".toList

/-- What a value is. -/
def found : Json → Found
  | .null => .null
  | .boolean b => .boolean b
  | .integer n => .integer n
  | .decimal spelling => .decimal spelling
  | .string t => .string t
  | .array _ => .sequence
  | .object _ => .map

end Json

end Nomenclator
