import Nomenclator.Text.Basic

/-!
# Universally unique identifiers

Specifications and styles are referred to by identifiers of 128 bits. They are written in the
hyphenated form with small letters. They are read in any case, hyphenated or not, and the
hyphenated form may also stand in braces or behind `urn:uuid:`.
-/

namespace Nomenclator

/-- An identifier of 128 bits. -/
structure Uuid where
  bits : BitVec 128
  deriving DecidableEq, Repr

namespace Uuid

/-- The identifier with this number. -/
def ofNat (n : Nat) : Uuid := ⟨BitVec.ofNat 128 n⟩

/-- The identifier of version 4, the one for random numbers, that has the other bits of this
number. -/
def ofRandom (n : Nat) : Uuid :=
  let bits := BitVec.ofNat 128 n
  let fixed : BitVec 128 := 0x0000000000004000_8000000000000000
  let free : BitVec 128 := 0xffffffffffff0fff_3fffffffffffffff
  ⟨(bits &&& free) ||| fixed⟩

/-! ## Hexadecimal digits -/

/-- The value of a hexadecimal digit in either case. -/
def digitValue? (c : Char) : Option Nat :=
  if '0' ≤ c ∧ c ≤ '9' then some (c.toNat - '0'.toNat)
  else if 'a' ≤ c ∧ c ≤ 'f' then some (c.toNat - 'a'.toNat + 10)
  else if 'A' ≤ c ∧ c ≤ 'F' then some (c.toNat - 'A'.toNat + 10)
  else none

/-- The number that hexadecimal digits spell, the most significant one first, going on from `n`. -/
def numberFrom? (n : Nat) : Text → Option Nat
  | [] => some n
  | c :: t => (digitValue? c).bind fun d => numberFrom? (16 * n + d) t

/-- The last `k` hexadecimal digits of a number, the most significant one first. -/
def hexDigits (n : Nat) : Nat → Text
  | 0 => []
  | k + 1 => hexDigits (n / 16) k ++ [Nat.digitChar (n % 16)]

/-! ## Writing and reading -/

/-- The hyphenated form: groups of 8, 4, 4, 4 and 12 digits. -/
def render (id : Uuid) : Text :=
  let digits := hexDigits id.bits.toNat 32
  Text.joinWith ['-']
    [digits.take 8, (digits.drop 8).take 4, (digits.drop 12).take 4, (digits.drop 16).take 4,
      digits.drop 20]

/-- Read 32 digits. -/
def ofDigits? (t : Text) : Option Uuid :=
  if t.length = 32 then (numberFrom? 0 t).map ofNat else none

/-- Read the hyphenated form. -/
def ofHyphenated? (t : Text) : Option Uuid :=
  match Text.splitOn '-' t with
  | [a, b, c, d, e] =>
    if a.length = 8 ∧ b.length = 4 ∧ c.length = 4 ∧ d.length = 4 ∧ e.length = 12 then
      ofDigits? (a ++ b ++ c ++ d ++ e)
    else none
  | _ => none

/-- Read an identifier in any of its forms. -/
def parse? (t : Text) : Option Uuid :=
  if t.length = 32 then ofDigits? t
  else if t.length = 36 then ofHyphenated? t
  else if t.length = 38 then
    ((Text.dropPrefix? ['{'] t).bind (Text.dropSuffix? ['}'])).bind ofHyphenated?
  else if Text.eqIgnoringCase "urn:uuid:".toList (t.take 9) then ofHyphenated? (t.drop 9)
  else none

end Uuid

end Nomenclator
