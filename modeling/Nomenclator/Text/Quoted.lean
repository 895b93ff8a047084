import Nomenclator.Text.Basic
import Nomenclator.Unicode.Escaping

/-!
# Quoted texts

A text that is shown to a reader inside quotes. Quotes, backslashes and the common controls are
escaped by a letter; what would not show is spelled out by its code point.
-/

namespace Nomenclator.Text

/-- The hexadecimal digits of a number, without leading zeros. -/
def hexadecimal (n : Nat) : Text := Nat.toDigits 16 n

/-- One character between quotes. -/
def quotedChar (c : Char) : Text :=
  if c = '"' then "\\\"".toList
  else if c = '\\' then "\\\\".toList
  else if c = '\n' then "\\n".toList
  else if c = '\r' then "\\r".toList
  else if c = '\t' then "\\t".toList
  else if c.toNat = 0 then "\\0".toList
  else if Unicode.isSpelledOut c then "\\u\x7b".toList ++ hexadecimal c.toNat ++ ['}']
  else [c]

/-- The text between quotes. -/
def quoted (t : Text) : Text := '"' :: t.flatMap quotedChar ++ ['"']

end Nomenclator.Text
