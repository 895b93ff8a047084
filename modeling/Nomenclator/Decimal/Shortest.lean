/-!
# Shortest decimals

The decimal with the fewest digits that lies closer to a binary floating-point number than to any
other, and among those the one nearest to the number. All comparisons are exact, on fractions of
natural numbers.
-/

namespace Nomenclator

/-- A decimal: `digits * 10 ^ exponent`. -/
structure Decimal where
  digits : Nat
  exponent : Int
  deriving DecidableEq, Repr

namespace Decimal

/-- A positive number between two bounds, all three in units of `1 / denominator`. The bounds
themselves belong to the interval or not. -/
structure Interval where
  low : Nat
  value : Nat
  high : Nat
  denominator : Nat
  closed : Bool

/-- The numbers that round to `mantissa * 2 ^ exponent` among those of 53 bits. The next number
below a power of two is half as far away as the next one above. -/
def Interval.ofBinary (mantissa : Nat) (exponent : Int) (isPowerOfTwo : Bool) : Interval :=
  let scale := Nat.pow 2 (exponent - 2).toNat
  { low := (4 * mantissa - if isPowerOfTwo then 1 else 2) * scale
    value := 4 * mantissa * scale
    high := (4 * mantissa + 2) * scale
    denominator := Nat.pow 2 (2 - exponent).toNat
    closed := mantissa % 2 == 0 }

/-- Compare a decimal with a fraction: both sides of the comparison, over a common denominator. -/
def against (d : Decimal) (numerator denominator : Nat) : Nat × Nat :=
  (d.digits * Nat.pow 10 d.exponent.toNat * denominator,
    numerator * Nat.pow 10 (-d.exponent).toNat)

/-- The decimal lies in the interval. -/
def Interval.holds (i : Interval) (d : Decimal) : Bool :=
  let (a, low) := d.against i.low i.denominator
  let (b, high) := d.against i.high i.denominator
  if i.closed then decide (low ≤ a) && decide (b ≤ high) else decide (low < a) && decide (b < high)

/-- How far the decimal is from the value, for comparing decimals with the same exponent. -/
def Interval.distance (i : Interval) (d : Decimal) : Nat :=
  let (a, v) := d.against i.value i.denominator
  max (a - v) (v - a)

/-- The power of ten of the value's leading digit, searched from `e` downwards. -/
def Interval.leadingExponent (i : Interval) : Nat → Int → Int
  | 0, e => e
  | fuel + 1, e =>
    let (a, v) := against ⟨1, e⟩ i.value i.denominator
    if a ≤ v then e else i.leadingExponent fuel (e - 1)

/-- The two decimals around the value on the grid of an exponent. -/
def Interval.neighbours (i : Interval) (exponent : Int) : Decimal × Decimal :=
  let digits :=
    i.value * Nat.pow 10 (-exponent).toNat / (i.denominator * Nat.pow 10 exponent.toNat)
  (⟨digits, exponent⟩, ⟨digits + 1, exponent⟩)

/-- The decimal of the coarsest grid that meets the interval; on one grid the nearer neighbour
counts, and of two equally near the even one. -/
def Interval.shortestFrom (i : Interval) : Nat → Int → Decimal
  | 0, exponent => (i.neighbours exponent).1
  | fuel + 1, exponent =>
    let (a, b) := i.neighbours exponent
    match i.holds a, i.holds b with
    | true, false => a
    | false, true => b
    | false, false => i.shortestFrom fuel (exponent - 1)
    | true, true =>
      if i.distance a < i.distance b then a
      else if i.distance b < i.distance a then b
      else if a.digits % 2 == 0 then a else b

/-- Remove the zeros at the end of the digits; there are at most as many as the fuel. -/
def withoutZeros : Nat → Decimal → Decimal
  | 0, d => d
  | fuel + 1, d =>
    if d.digits % 10 == 0 && d.digits != 0 then
      withoutZeros fuel ⟨d.digits / 10, d.exponent + 1⟩
    else d

/-- The shortest decimal in the interval. -/
def Interval.shortest (i : Interval) : Decimal :=
  let lead := i.leadingExponent 700 309
  withoutZeros 20 (i.shortestFrom 18 (lead + 1))

/-- The parts of a finite number of 64 bits: its sign, and its shortest decimal unless it is
zero. -/
def ofFloat (x : Float) : Bool × Option Decimal :=
  let bits := x.toBits.toNat
  let negative := decide (Nat.pow 2 63 ≤ bits)
  let exponent : Nat := bits / Nat.pow 2 52 % Nat.pow 2 11
  let fraction := bits % Nat.pow 2 52
  if exponent == 0 && fraction == 0 then (negative, none)
  else if exponent == 0 then
    (negative, some (Interval.ofBinary fraction (-1074) false).shortest)
  else
    let isPowerOfTwo := fraction == 0 && exponent != 1
    let mantissa := fraction + Nat.pow 2 52
    (negative,
      some (Interval.ofBinary mantissa (Int.ofNat exponent - 1075) isPowerOfTwo).shortest)

end Decimal

end Nomenclator
