/-!
# Shortest decimals

The shortest decimal of a binary floating point number is the one with the
fewest significant digits among those that read back as the number; of several,
the nearest to it.  All arithmetic is exact: the number is `mantissa · 2^power`
and every comparison is between natural numbers.
-/

namespace KontaktScript.Decimal

structure Binary where
  mantissa : Nat
  power : Int
  /-- Whether the gap below the number is half the gap above it. -/
  narrowBelow : Bool

/-- The decimal `digits · 10^exponent`. -/
structure Scientific where
  digits : Nat
  exponent : Int
  deriving DecidableEq, Repr

/-- The magnitude of a finite number other than zero, from its IEEE 754 bits. -/
def Binary.ofBits (bits : UInt64) : Binary :=
  let fraction := (bits &&& 0xFFFFFFFFFFFFF).toNat
  let biased := ((bits >>> 52) &&& 0x7FF).toNat
  if biased = 0 then ⟨fraction, -1074, false⟩
  else ⟨fraction + 1 <<< 52, (biased : Int) - 1075, fraction = 0 && 1 < biased⟩

/-- `value · 2^power · 10^(-exponent)` as a fraction of natural numbers. -/
def scaled (value : Nat) (power exponent : Int) : Nat × Nat :=
  (value * Nat.pow 2 power.toNat * Nat.pow 10 (-exponent).toNat,
   Nat.pow 2 (-power).toNat * Nat.pow 10 exponent.toNat)

/-- The candidate with the given exponent that reads back as the number: one of
its two neighbours on that decimal grid, the nearer if both do, and the even
one of two equally near. -/
def candidate? (number : Binary) (exponent : Int) : Option Nat :=
  let power := number.power - 2
  let exact := scaled (4 * number.mantissa) power exponent
  let below := (scaled (4 * number.mantissa - if number.narrowBelow then 1 else 2) power exponent).1
  let above := (scaled (4 * number.mantissa + 2) power exponent).1
  let scale := exact.2
  let closed := number.mantissa % 2 = 0
  let readsBack (digits : Nat) : Bool :=
    if closed then below ≤ digits * scale && digits * scale ≤ above
    else below < digits * scale && digits * scale < above
  let low := exact.1 / scale
  let high := low + 1
  let lowGap := exact.1 - low * scale
  let highGap := high * scale - exact.1
  match 0 < low && readsBack low, readsBack high with
  | true, true =>
      if lowGap < highGap then some low
      else if highGap < lowGap then some high
      else if low % 2 = 0 then some low else some high
  | true, false => some low
  | false, true => some high
  | false, false => none

/-- The first candidate, trying `steps` exponents from the given one
downwards. -/
def search (number : Binary) : Nat → Int → Scientific
  | 0, exponent => ⟨0, exponent⟩
  | steps + 1, exponent =>
      match candidate? number exponent with
      | some digits => ⟨digits, exponent⟩
      | none => search number steps (exponent - 1)

/-- Moves the zeros at the end of the digits into the exponent. -/
def stripZeros : Nat → Scientific → Scientific
  | 0, decimal => decimal
  | steps + 1, decimal =>
      if decimal.digits ≠ 0 ∧ decimal.digits % 10 = 0 then
        stripZeros steps ⟨decimal.digits / 10, decimal.exponent + 1⟩
      else decimal

/-- The shortest decimal that reads back as the number.  Numbers lie below
`10^309`, and seventeen digits always suffice, so the search ends between the
exponents 309 and -342. -/
def shortest (number : Binary) : Scientific :=
  stripZeros 20 (search number 660 309)

end KontaktScript.Decimal
