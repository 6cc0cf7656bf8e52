/-!
# The shortest decimal of a binary number

A number in binary floating point stands for all reals that round to it. Of the decimals among these,
one with the fewest digits is written, and of several the nearest to the number.

* `Binary`, `Binary.ofBits`: a number as an integer times a power of two.
* `Decimal`, `Decimal.ofBinary`: the shortest decimal.
-/

namespace InputChain

/-- The positive number `mantissa * 2 ^ exponent`. -/
structure Binary where
  mantissa : Nat
  exponent : Int
  /-- Whether the next number below is only half as far away as the next one above. -/
  isBoundary : Bool
  deriving DecidableEq, Repr

/-- The magnitude of a finite number of double precision. -/
def Binary.ofBits (bits : UInt64) : Binary :=
  let fraction : Nat := bits.toNat % Nat.pow 2 52
  let power : Nat := bits.toNat / Nat.pow 2 52 % Nat.pow 2 11
  if power = 0 then ⟨fraction, -1074, false⟩
  else ⟨fraction + Nat.pow 2 52, (power : Int) - 1075, fraction = 0 ∧ 1 < power⟩

/-- The number `digits * 10 ^ exponent`. -/
structure Decimal where
  digits : Nat
  exponent : Int
  deriving DecidableEq, Repr

namespace Decimal

/-- `2 ^ e` for an exponent that is not negative, and 1 otherwise. -/
def power (base : Nat) (e : Int) : Nat :=
  Nat.pow base e.toNat

/-- `quarters` quarters of the unit `2 ^ exponent`, in the unit of the grid of `10 ^ grid`, as a
quotient. -/
def onGrid (exponent grid : Int) (quarters : Nat) : Nat × Nat :=
  (quarters * power 2 (exponent - 2) * power 10 (-grid), power 2 (2 - exponent) * power 10 grid)

/-- Whether a point of the grid rounds to the number: it lies between the halves of the gaps to the
numbers next to it. The ends count if the mantissa is even. -/
def roundsBack (number : Binary) (grid : Int) (point : Nat) : Bool :=
  let (low, den) := onGrid number.exponent grid
    (4 * number.mantissa - if number.isBoundary then 1 else 2)
  let (high, _) := onGrid number.exponent grid (4 * number.mantissa + 2)
  if number.mantissa % 2 = 0 then low ≤ point * den && point * den ≤ high
  else low < point * den && point * den < high

/-- The point of a grid that rounds to the number and is nearest to it. Of two as near as each other
the even one is taken. -/
def nearest? (number : Binary) (grid : Int) : Option Nat :=
  let (num, den) := onGrid number.exponent grid (4 * number.mantissa)
  let low := num / den
  let takesLow := 2 * (num % den) < den ∨ 2 * (num % den) = den ∧ low % 2 = 0
  match roundsBack number grid low, roundsBack number grid (low + 1) with
  | true, true => some (if takesLow then low else low + 1)
  | true, false => some low
  | false, true => some (low + 1)
  | false, false => none

/-- The number of decimal digits in front of the point, or the number of zeros behind it as a
negative number. -/
def magnitude (number : Binary) : Int :=
  let (num, den) := onGrid number.exponent 0 (4 * number.mantissa)
  if den ≤ num then (Nat.toDigits 10 (num / den)).length
  else
    let zeros := (List.range 400).takeWhile (fun n => num * Nat.pow 10 (n + 1) < den)
    0 - (zeros.length : Int)

/-- Takes zeros off the end of the digits. -/
def strip : (limit : Nat) → Decimal → Decimal
  | 0, decimal => decimal
  | limit + 1, decimal =>
    if decimal.digits ≠ 0 ∧ decimal.digits % 10 = 0 then
      strip limit ⟨decimal.digits / 10, decimal.exponent + 1⟩
    else decimal

/-- The shortest decimal that rounds to a positive number. Seventeen digits are always enough. -/
def ofBinary (number : Binary) : Decimal :=
  let top := magnitude number
  let found := (List.range 17).findSome? fun (n : Nat) =>
    (nearest? number (top - (n + 1))).map fun point => (⟨point, top - (n + 1)⟩ : Decimal)
  strip 20 (found.getD ⟨0, 0⟩)

end Decimal

end InputChain
