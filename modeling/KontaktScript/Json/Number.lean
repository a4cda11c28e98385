import KontaktScript.Decimal.Shortest
import KontaktScript.Json.Basic

/-!
# Numbers in JSON text

An integer that fits into 64 bits, signed or unsigned, stays an integer.  Every
other number is a binary floating point number: its first digits, as many as
fit into 64 bits, are scaled by a power of ten.
-/

namespace KontaktScript.Json

def digitValue (c : Char) : Nat :=
  c.toNat - '0'.toNat

/-- Appends decimal digits to a significand while it stays below `2^64`; gives
back the digits that no longer fit. -/
def accumulate (significand : Nat) : List Char → Nat × List Char
  | [] => (significand, [])
  | c :: cs =>
      let next := significand * 10 + digitValue c
      if next < UInt64.size then accumulate next cs else (significand, c :: cs)

def powerOfTen (exponent : Nat) : Float :=
  Float.ofScientific 1 false exponent

/-- `value · 10^exponent`; `none` if it is too large. -/
def scaleFloat (value : Float) (exponent : Int) : Option Float :=
  if exponent.natAbs ≤ 308 then
    if 0 ≤ exponent then
      let scaled := value * powerOfTen exponent.toNat
      if scaled.isInf then none else some scaled
    else some (value / powerOfTen exponent.natAbs)
  else if value == 0 then some value
  else if 0 ≤ exponent then none
  else scaleFloat (value / powerOfTen 308) (exponent + 308)
termination_by (-exponent).toNat
decreasing_by omega

/-- The parts of a number's text: sign, digits before and behind the point, and
the exponent's sign and digits. -/
structure NumberText where
  negative : Bool
  whole : List Char
  fraction : Option (List Char)
  exponent : Option (Bool × List Char)

/-- Splits an exponent, which has at least one digit, off the end of a number. -/
def exponentText? : List Char → Option (Option (Bool × List Char))
  | [] => some none
  | mark :: cs =>
      if mark = 'e' ∨ mark = 'E' then
        let (negative, digits) := match cs with
          | '-' :: digits => (true, digits)
          | '+' :: digits => (false, digits)
          | digits => (false, digits)
        if digits ≠ [] ∧ digits.all Char.isDigit then some (some (negative, digits)) else none
      else none

/-- Splits a number's text into its parts.  Neither a leading zero before other
digits nor a point without digits behind it is allowed. -/
def numberText? (cs : List Char) : Option NumberText := do
  let (negative, cs) := match cs with
    | '-' :: rest => (true, rest)
    | rest => (false, rest)
  let whole := cs.takeWhile Char.isDigit
  if whole = [] ∨ (whole.head? = some '0' ∧ 1 < whole.length) then none
  match cs.dropWhile Char.isDigit with
  | '.' :: rest =>
      let fraction := rest.takeWhile Char.isDigit
      if fraction = [] then none
      let exponent ← exponentText? (rest.dropWhile Char.isDigit)
      some ⟨negative, whole, some fraction, exponent⟩
  | rest =>
      let exponent ← exponentText? rest
      some ⟨negative, whole, none, exponent⟩

def signed (negative : Bool) (value : Float) : Json :=
  .float (if negative then -value else value)

def floatOf? (negative : Bool) (significand : Nat) (exponent : Int) : Option Json :=
  (scaleFloat significand.toUInt64.toFloat exponent).map (signed negative)

/-- The largest exponent that is read; a larger one is zero or too large. -/
def exponentLimit : Nat := 2147483647

/-- Reads a number; `none` if the text is no number or the number is too
large. -/
def readNumber? (cs : List Char) : Option Json := do
  let text ← numberText? cs
  let (whole, dropped) := accumulate 0 text.whole
  match text.fraction, text.exponent with
  | none, none =>
      if dropped ≠ [] then floatOf? text.negative whole dropped.length
      else if ¬ text.negative then some (.int whole)
      else if whole = 0 ∨ 1 <<< 63 < whole then floatOf? true whole 0
      else some (.int (-whole))
  | fraction, exponent =>
      let digits := fraction.getD []
      let (significand, unread) := accumulate whole digits
      let shift : Int := dropped.length - (digits.length - unread.length : Nat)
      match exponent with
      | none => floatOf? text.negative significand shift
      | some (below, power) =>
          let power := power.foldl (fun value c => value * 10 + digitValue c) 0
          if exponentLimit < power then
            if significand = 0 ∨ below then some (signed text.negative 0) else none
          else
            floatOf? text.negative significand (if below then shift - power else shift + power)

/-- Digits with a point after the first `whole` of them. -/
def withPoint (digits : List Char) (whole : Nat) : List Char :=
  digits.take whole ++ '.' :: digits.drop whole

/-- A decimal in positional notation, always with a digit behind the point, or
in scientific notation, with a sign before the exponent, if its leading digit
stands for less than `10^-5` or for `10^16` or more. -/
def decimalText (decimal : Decimal.Scientific) : List Char :=
  let digits := (toString decimal.digits).toList
  let point : Int := digits.length + decimal.exponent
  if 0 ≤ decimal.exponent ∧ point ≤ 16 then
    digits ++ List.replicate decimal.exponent.toNat '0' ++ ['.', '0']
  else if 0 < point ∧ point ≤ 16 then withPoint digits point.toNat
  else if -5 < point ∧ point ≤ 0 then
    '0' :: '.' :: List.replicate (-point).toNat '0' ++ digits
  else
    let sign := if point ≤ 0 then '-' else '+'
    let power := sign :: (toString (point - 1).natAbs).toList
    if digits.length = 1 then digits ++ 'e' :: power
    else withPoint digits 1 ++ 'e' :: power

/-- The text of a floating point number: the fewest digits that read back. -/
def floatText (value : Float) : String :=
  if value.isNaN then "NaN"
  else
    let sign := if value.toBits >>> 63 = 1 then ['-'] else []
    let magnitude :=
      if value == 0 then "0.0".toList
      else if value.isInf then "inf".toList
      else decimalText (Decimal.shortest (Decimal.Binary.ofBits value.toBits))
    String.ofList (sign ++ magnitude)

end KontaktScript.Json
