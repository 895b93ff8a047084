import Nomenclator.Text.Basic

/-!
# Predefined types

The types that have a keyword of their own. A name is derived from one of them only through its
name in the run-time library, and only where that name says something: `string` gives `String`,
while a number gives nothing.
-/

namespace Nomenclator

/-- The types that have a keyword. -/
inductive PredefinedType
  | bool
  | byte
  | sByte
  | char
  | short
  | uShort
  | int
  | uInt
  | long
  | uLong
  | float
  | double
  | decimal
  | string
  | object
  deriving DecidableEq, Repr

namespace PredefinedType

/-- The predefined types in the order of the listing. -/
def all : List PredefinedType :=
  [.bool, .byte, .sByte, .char, .short, .uShort, .int, .uInt, .long, .uLong, .float, .double,
    .decimal, .string, .object]

/-- The keyword of the type. -/
def keyword : PredefinedType → String
  | .bool => "bool"
  | .byte => "byte"
  | .sByte => "sbyte"
  | .char => "char"
  | .short => "short"
  | .uShort => "ushort"
  | .int => "int"
  | .uInt => "uint"
  | .long => "long"
  | .uLong => "ulong"
  | .float => "float"
  | .double => "double"
  | .decimal => "decimal"
  | .string => "string"
  | .object => "object"

/-- The simple name of the type in the run-time library. -/
def runtimeName : PredefinedType → String
  | .bool => "Boolean"
  | .byte => "Byte"
  | .sByte => "SByte"
  | .char => "Char"
  | .short => "Int16"
  | .uShort => "UInt16"
  | .int => "Int32"
  | .uInt => "UInt32"
  | .long => "Int64"
  | .uLong => "UInt64"
  | .float => "Single"
  | .double => "Double"
  | .decimal => "Decimal"
  | .string => "String"
  | .object => "Object"

/-- Names can be derived from the type. -/
def isNameable : PredefinedType → Bool
  | .decimal | .string | .object => true
  | _ => false

/-- The type with this keyword or run-time name; case and white space matter. -/
def ofName? (name : Text) : Option PredefinedType :=
  all.find? fun t => t.keyword.toList == name || t.runtimeName.toList == name

/-- Every predefined type is listed. -/
theorem mem_all (t : PredefinedType) : t ∈ all := by
  cases t <;> decide

end PredefinedType

end Nomenclator
