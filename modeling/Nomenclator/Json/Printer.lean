import Nomenclator.Json.Value
import Nomenclator.Uuid

/-!
# Writing JSON texts

A value is written on one line, or with every element and member on a line of its own, indented by
two blanks for each array and object around it. Empty arrays and objects are written without a
break in either layout.

Main definition: `Json.render`.
-/

namespace Nomenclator.Json

/-! ## Strings -/

/-- One character of a string. Only quotes, backslashes and controls are escaped, the common
controls by a letter. -/
def escapedChar (c : Char) : Text :=
  if c = '"' then "\\\"".toList
  else if c = '\\' then "\\\\".toList
  else if c = '\x08' then "\\b".toList
  else if c = '\x0c' then "\\f".toList
  else if c = '\n' then "\\n".toList
  else if c = '\r' then "\\r".toList
  else if c = '\t' then "\\t".toList
  else if c.toNat < 0x20 then "\\u".toList ++ Uuid.hexDigits c.toNat 4
  else [c]

/-- A string between quotes. -/
def renderString (t : Text) : Text := '"' :: (t.flatMap escapedChar ++ ['"'])

/-! ## Values -/

/-- How the parts of a value are set apart. -/
inductive Layout
  | compact
  | indented
  deriving DecidableEq, Repr

/-- What stands before a part of a value: nothing, or a line break and the indentation. -/
def Layout.gap : Layout → Nat → Text
  | .compact, _ => []
  | .indented, depth => '\n' :: List.replicate (2 * depth) ' '

/-- What stands between the name and the value of a member. -/
def Layout.colon : Layout → Text
  | .compact => [':']
  | .indented => [':', ' ']

mutual

/-- The text of a value inside so many arrays and objects. -/
def renderAt (layout : Layout) (depth : Nat) : Json → Text
  | .null => "null".toList
  | .boolean b => (if b then "true" else "false").toList
  | .integer n => (toString n).toList
  | .decimal spelling => spelling
  | .string t => renderString t
  | .array [] => "[]".toList
  | .array (item :: items) =>
    '[' :: (layout.gap (depth + 1) ++ renderAt layout (depth + 1) item)
      ++ renderItems layout depth items
  | .object [] => ['{', '}']
  | .object ((name, item) :: members) =>
    '{' :: (layout.gap (depth + 1) ++ renderString name ++ layout.colon
      ++ renderAt layout (depth + 1) item) ++ renderMembers layout depth members

/-- The text of the elements of an array behind its first one, up to its end. -/
def renderItems (layout : Layout) (depth : Nat) : List Json → Text
  | [] => layout.gap depth ++ [']']
  | item :: items =>
    ',' :: (layout.gap (depth + 1) ++ renderAt layout (depth + 1) item)
      ++ renderItems layout depth items

/-- The text of the members of an object behind its first one, up to its end. -/
def renderMembers (layout : Layout) (depth : Nat) : List (Text × Json) → Text
  | [] => layout.gap depth ++ ['}']
  | (name, item) :: members =>
    ',' :: (layout.gap (depth + 1) ++ renderString name ++ layout.colon
      ++ renderAt layout (depth + 1) item) ++ renderMembers layout depth members

end

/-- The text of a value. -/
def render (layout : Layout) (v : Json) : Text := renderAt layout 0 v

end Nomenclator.Json
