import Nomenclator.Decimal.Shortest
import Nomenclator.Json.Reader
import Nomenclator.Uuid

/-!
# Strings and numbers in JSON texts

A string is read up to its closing quote; escapes of surrogates must come in pairs. A number is an
integer of 64 bits if it is written as one and fits, and otherwise a floating-point number, of which
only the shortest spelling is kept.

Main definitions: `stringFrom` reads a string, `skipStringFrom` passes one that nobody asked for,
and `number` reads a number.
-/

namespace Nomenclator.Json

/-! ## Strings -/

/-- The place `n` bytes further on the same line. -/
def Position.shift (p : Position) (n : Nat) : Position := { p with column := p.column + n }

/-- The number that the four hexadecimal digits at the front of a text spell. -/
def hexQuad (p : Position) (t : Text) : Except Fault Nat :=
  if Text.utf8Size (t.take 4) < 4 then .error (.malformed .endInString (p.pastBytes 4 t))
  else
    match Uuid.numberFrom? 0 (t.take 4) with
    | some n => .ok n
    | none => .error (.malformed .invalidEscape (p.pastBytes 4 t))

/-- The character that a letter behind a backslash stands for. -/
def simpleEscape? : Char → Option Char
  | '"' => some '"'
  | '\\' => some '\\'
  | '/' => some '/'
  | 'b' => some '\x08'
  | 'f' => some '\x0c'
  | 'n' => some '\n'
  | 'r' => some '\r'
  | 't' => some '\t'
  | _ => none

/-- The number is the first half of a surrogate pair. -/
def isHighSurrogate (n : Nat) : Bool := decide (0xD800 ≤ n) && decide (n ≤ 0xDBFF)

/-- The number is the second half of a surrogate pair. -/
def isLowSurrogate (n : Nat) : Bool := decide (0xDC00 ≤ n) && decide (n ≤ 0xDFFF)

/-- The code point of a surrogate pair. -/
def pairedCodePoint (high low : Nat) : Nat := (high - 0xD800) * 0x400 + (low - 0xDC00) + 0x10000

/-- The second half of a surrogate pair, escaped at the front of the text. -/
def lowHalf (p : Position) : Text → Except Fault Nat
  | [] => .error (.malformed .endInString p)
  | '\\' :: [] => .error (.malformed .endInString (p.shift 1))
  | '\\' :: 'u' :: t => do
    let n ← hexQuad (p.shift 2) t
    if isLowSurrogate n then .ok n
    else .error (.malformed .loneSurrogate (p.shift 6))
  | '\\' :: c :: _ => .error (.malformed .unexpectedEndOfHexEscape ((p.shift 1).into c))
  | c :: _ => .error (.malformed .unexpectedEndOfHexEscape (p.into c))

/-- The character that the text behind a backslash stands for, and how many characters of the text
do. -/
def escapeFrom (p : Position) : Text → Except Fault (Char × Nat)
  | [] => .error (.malformed .endInString p)
  | 'u' :: t => do
    let n ← hexQuad (p.shift 1) t
    if isHighSurrogate n then
      let low ← lowHalf (p.shift 5) (t.drop 4)
      .ok (Char.ofNat (pairedCodePoint n low), 11)
    else if isLowSurrogate n then .error (.malformed .loneSurrogate (p.shift 5))
    else .ok (Char.ofNat n, 5)
  | c :: _ =>
    match simpleEscape? c with
    | some d => .ok (d, 1)
    | none => .error (.malformed .invalidEscape (p.into c))

/-- A character that may not stand in a string. -/
def isControl (c : Char) : Bool := decide (c.toNat < 0x20)

/-- Read a string behind its opening quote: its characters, the text behind its closing quote, and
the place of that. -/
def stringFrom (p : Position) (t : Text) : Except Fault (Text × Text × Position) :=
  match t with
  | [] => .error (.malformed .endInString p)
  | c :: rest =>
    if c = '"' then .ok ([], rest, p.past c)
    else if c = '\\' then
      match escapeFrom (p.past c) rest with
      | .error f => .error f
      | .ok (d, n) =>
        (stringFrom (p.shift (n + 1)) (rest.drop n)).map fun (s, after) => (d :: s, after)
    else if isControl c then .error (.malformed .controlCharacterInString (p.into c))
    else (stringFrom (p.past c) rest).map fun (s, after) => (c :: s, after)
termination_by t.length
decreasing_by all_goals simp only [List.length_cons, List.length_drop]; omega

/-- How many characters the text behind a backslash takes, where nobody asks what it stands for. -/
def escapeLength (p : Position) : Text → Except Fault Nat
  | [] => .error (.malformed .endInString p)
  | 'u' :: t => (hexQuad (p.shift 1) t).map fun _ => 5
  | c :: _ =>
    if (simpleEscape? c).isSome then .ok 1 else .error (.malformed .invalidEscape (p.into c))

/-- Pass a string behind its opening quote. -/
def skipStringFrom (p : Position) (t : Text) : Except Fault (Text × Position) :=
  match t with
  | [] => .error (.malformed .endInString p)
  | c :: rest =>
    if c = '"' then .ok (rest, p.past c)
    else if c = '\\' then
      match escapeLength (p.past c) rest with
      | .error f => .error f
      | .ok n => skipStringFrom (p.shift (n + 1)) (rest.drop n)
    else if isControl c then .error (.malformed .controlCharacterInString p)
    else skipStringFrom (p.past c) rest
termination_by t.length
decreasing_by all_goals simp only [List.length_cons, List.length_drop]; omega

namespace Reader

/-- Read a string behind its opening quote. -/
def stringBody : Reader Text := fun c =>
  match stringFrom c.position c.rest with
  | .ok (s, rest, position) => .done s { c with rest, position }
  | .error f => .failed f c

/-- Pass a string behind its opening quote. -/
def skipStringBody : Reader Unit := fun c =>
  match skipStringFrom c.position c.rest with
  | .ok (rest, position) => .done () { c with rest, position }
  | .error f => .failed f c

/-! ## Numbers -/

/-- The decimal digits at the front of the text. -/
def digits : Reader Text := fun c =>
  let ds := c.rest.takeWhile Char.isDigit
  .done ds
    { c with
      rest := c.rest.dropWhile Char.isDigit
      position := c.position.shift ds.length }

end Reader

/-- The value of a decimal digit. -/
def digitValue (c : Char) : Nat := c.toNat - '0'.toNat

/-- Append digits to a number as long as it stays within the limit: the number, and how many digits
it took. -/
def absorb (limit n : Nat) : Text → Nat × Nat
  | [] => (n, 0)
  | c :: cs =>
    let m := 10 * n + digitValue c
    if m ≤ limit then
      let (v, k) := absorb limit m cs
      (v, k + 1)
    else (n, 0)

/-- The largest significand that is kept exactly. -/
def maxSignificand : Nat := Nat.pow 2 64 - 1

/-- The largest exponent that is kept exactly. -/
def maxExponent : Nat := Nat.pow 2 31 - 1

/-- A power of ten as a floating-point number. -/
def powerOfTen (k : Nat) : Float := Float.ofScientific 1 false k

/-- Scale a number by a power of ten, in as many steps as the exponent needs; nothing if the result
is too large. -/
def scaleBy : Nat → Float → Int → Option Float
  | 0, x, _ => some x
  | steps + 1, x, e =>
    if e.natAbs ≤ 308 then
      if 0 ≤ e then
        let y := x * powerOfTen e.natAbs
        if y.isInf then none else some y
      else some (x / powerOfTen e.natAbs)
    else if x == 0.0 then some x
    else if 0 ≤ e then none
    else scaleBy steps (x / powerOfTen 308) (e + 308)

/-- The spelling of an exponent, always with a sign. -/
def spellExponent (e : Int) : Text :=
  (if e < 0 then '-' else '+') :: (toString e.natAbs).toList

/-- The spelling of a decimal: positional from 0.00001 up to sixteen digits before the point,
scientific beyond. A number in positional form always has a point. -/
def spellDecimal (negative : Bool) (d : Option Decimal) : Text :=
  let sign := if negative then ['-'] else []
  match d with
  | none => sign ++ "0.0".toList
  | some d =>
    let ds := (toString d.digits).toList
    let point := (ds.length : Int) + d.exponent
    if 0 ≤ d.exponent ∧ point ≤ 16 then
      sign ++ ds ++ List.replicate d.exponent.toNat '0' ++ ".0".toList
    else if 0 < point ∧ point ≤ 16 then
      sign ++ ds.take point.toNat ++ '.' :: ds.drop point.toNat
    else if -5 < point ∧ point ≤ 0 then
      sign ++ "0.".toList ++ List.replicate (-point).toNat '0' ++ ds
    else
      let fraction := if ds.length = 1 then [] else '.' :: ds.drop 1
      sign ++ ds.take 1 ++ fraction ++ 'e' :: spellExponent (point - 1)

namespace Reader

/-- The number `± significand * 10 ^ exponent`. -/
def floating (negative : Bool) (significand : Nat) (exponent : Int) : Reader Json :=
  match scaleBy 8 (UInt64.ofNat significand).toFloat exponent with
  | none => malformedHere .numberOutOfRange
  | some x => pure (.decimal (spellDecimal negative (Decimal.ofFloat x).2))

/-- Read the exponent of a number behind its `e`. -/
def exponentPart (negative : Bool) (significand : Nat) (exponent : Int) : Reader Json := do
  let sign ← peek
  if sign = some '+' ∨ sign = some '-' then advance
  match ← peek with
  | none => malformedHere .endBeforeValue
  | some d =>
    if !d.isDigit then malformedNext .invalidNumber
    else
      let start ← place
      let ds ← digits
      let (e, taken) := absorb maxExponent 0 ds
      if taken < ds.length then
        if significand ≠ 0 ∧ sign ≠ some '-' then
          malformedAt .numberOutOfRange (start.shift (taken + 1))
        else pure (.decimal (spellDecimal negative none))
      else
        let total := if sign = some '-' then exponent - e else exponent + e
        floating negative significand (max (-(maxExponent : Int) - 1) (min maxExponent total))

/-- Read the rest of a number that has an exponent or ends here. -/
def afterFraction (negative : Bool) (significand : Nat) (exponent : Int) : Reader Json := do
  match ← peek with
  | some 'e' | some 'E' => advance; exponentPart negative significand exponent
  | _ => floating negative significand exponent

/-- Read the digits behind the point of a number. -/
def fractionPart (negative : Bool) (significand : Nat) (exponent : Int) : Reader Json := do
  let ds ← digits
  if ds.isEmpty then
    match ← peek with
    | none => malformedNext .endBeforeValue
    | some _ => malformedNext .invalidNumber
  else
    let (n, taken) := absorb maxSignificand significand ds
    afterFraction negative n (exponent - taken)

/-- The integer with this sign, or a floating-point number if 64 bits do not hold it. A zero with a
sign is no integer. -/
def integral (negative : Bool) (n : Nat) : Reader Json :=
  if !negative then pure (.integer n)
  else if n ≠ 0 ∧ n ≤ Nat.pow 2 63 then pure (.integer (-n))
  else floating true n 0

/-- Read a number behind its sign. -/
def number (negative : Bool) : Reader Json := do
  match ← peek with
  | none => malformedHere .endBeforeValue
  | some first =>
    if !first.isDigit then malformedNext .invalidNumber
    else
      let start ← place
      let ds ← digits
      if first = '0' ∧ 1 < ds.length then malformedAt .invalidNumber (start.shift 2)
      else
        let (n, taken) := absorb maxSignificand 0 ds
        let beyond := ds.length - taken
        match ← peek with
        | some '.' => advance; fractionPart negative n beyond
        | some 'e' | some 'E' => advance; exponentPart negative n beyond
        | _ => if beyond = 0 then integral negative n else floating negative n beyond

/-! ## Scalars -/

/-- Read a scalar that starts with this character; arrays and objects are left to the caller. -/
def scalarOr (onArray onObject : Reader Json) : Char → Reader Json
  | 'n' => do advance; word "ull".toList; pure .null
  | 't' => do advance; word "rue".toList; pure (.boolean true)
  | 'f' => do advance; word "alse".toList; pure (.boolean false)
  | '"' => do advance; let s ← stringBody; pure (.string s)
  | '-' => do advance; number true
  | '[' => onArray
  | '{' => onObject
  | c => if c.isDigit then number false else malformedNext .expectedValue

/-- Fail because the value that starts with this character is not what was expected. A scalar is
read first, and may be malformed. -/
def unexpected {α : Type} (expected : String) (first : Char) : Reader α := located do
  let v ← scalarOr (pure (.array [])) (pure (.object [])) first
  mismatch (.invalidType v.found expected)

end Reader

end Nomenclator.Json
