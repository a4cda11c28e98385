import KontaktScript.Text.Hex
import KontaktScript.Text.Split

/-!
# Addresses

A host may be given by its address instead of its name.  A name whose last part
is a number is read as an address of 32 bits, in which the last number fills
all places that are left.  An address of 128 bits stands in brackets.
-/

namespace KontaktScript.Uri

open Text

def numberOf (base : Nat) (digits : List Char) : Nat :=
  digits.foldl (fun number c => number * base + (hexValue? c).getD 0) 0

/-- A part of an address: `0x` marks hexadecimal digits and a leading zero octal
ones; behind either mark the digits may be missing. -/
def addressNumber? : List Char → Option Nat
  | [] => none
  | '0' :: 'x' :: digits | '0' :: 'X' :: digits =>
      if digits.all fun c => (hexValue? c).isSome then some (numberOf 16 digits) else none
  | '0' :: digits =>
      if digits.all fun c => '0' ≤ c && c ≤ '7' then some (numberOf 8 digits) else none
  | digits => if digits.all Char.isDigit then some (numberOf 10 digits) else none

/-- The parts of a name, without an empty one at its end. -/
def nameParts (name : List Char) : List (List Char) :=
  match (splitAt (· == '.') name).reverse with
  | [] :: last :: others => (last :: others).reverse
  | parts => parts.reverse

/-- Whether a name is read as an address. -/
def endsInNumber (name : List Char) : Bool :=
  match (nameParts name).getLast? with
  | some part => (part ≠ [] && part.all Char.isDigit) || (addressNumber? part).isSome
  | none => false

/-- The address that numbers denote, each but the last one byte. -/
def joinBytes? : Nat → List Nat → Option Nat
  | _, [] => none
  | places, [number] => if number < Nat.pow 256 places then some number else none
  | places, byte :: bytes => do
      let rest ← joinBytes? (places - 1) bytes
      if byte < 256 then some (byte * Nat.pow 256 (places - 1) + rest) else none

def readAddress? (name : List Char) : Option Nat := do
  let numbers ← (nameParts name).mapM addressNumber?
  if 4 < numbers.length then none else joinBytes? 4 numbers

def addressText (address : Nat) : List Char :=
  ['.'].intercalate <| [3, 2, 1, 0].map fun place =>
    (toString (address / Nat.pow 256 place % 256)).toList

/-- Sixteen bits in at most four hexadecimal digits. -/
def piece? (digits : List Char) : Option Nat :=
  if digits ≠ [] ∧ digits.length ≤ 4 ∧ digits.all fun c => (hexValue? c).isSome then
    some (hexNumber digits)
  else none

/-- A byte in decimal digits without leading zeros. -/
def decimalByte? (digits : List Char) : Option Nat :=
  if digits ≠ [] ∧ digits.all Char.isDigit ∧ (digits.head? = some '0' → digits.length = 1) ∧
      numberOf 10 digits < 256 then
    some (numberOf 10 digits)
  else none

/-- The two pieces of an address of 32 bits at the end of a longer one. -/
def embeddedPieces? (text : List Char) : Option (List Nat) := do
  match ← (splitAt (· == '.') text).mapM decimalByte? with
  | [a, b, c, d] => some [a * 256 + b, c * 256 + d]
  | _ => none

/-- The pieces that stand between colons; the last two may be written as an
address of 32 bits. -/
def pieces? : List (List Char) → Option (List Nat)
  | [] => some []
  | [last] => if last.contains '.' then embeddedPieces? last else (piece? last).map ([·])
  | digits :: others => do return (← piece? digits) :: (← pieces? others)

def pieceCount : Nat := 8

/-- Takes the empty part off the start of an address that starts with two
colons. -/
def trimLead? : List (List Char) → Option (List (List Char))
  | [] :: [] :: parts => some ([] :: parts)
  | [] :: _ => none
  | parts => some parts

/-- The pieces of an address.  Two colons stand for as many zeros as are
missing, at least one. -/
def readPieces? (text : List Char) : Option (List Nat) := do
  let lead ← trimLead? (splitAt (· == ':') text)
  let parts := (← trimLead? lead.reverse).reverse
  let front := parts.takeWhile (· ≠ [])
  match parts.dropWhile (· ≠ []) with
  | [] =>
      let pieces ← pieces? front
      if pieces.length = pieceCount then some pieces else none
  | _ :: back =>
      if front.any (·.contains '.') then none
      let front ← pieces? front
      let back ← pieces? back
      if front.length + back.length < pieceCount then
        some (front ++ List.replicate (pieceCount - front.length - back.length) 0 ++ back)
      else none

def zeroRun (pieces : List Nat) : Nat :=
  (pieces.takeWhile (· = 0)).length

/-- Where the longest run of at least two zeros starts, the first of several,
and its length. -/
def longestZeroRun? (pieces : List Nat) : Option (Nat × Nat) :=
  let runs := (List.range pieces.length).map fun start => (start, zeroRun (pieces.drop start))
  let longest := (runs.map (·.2)).foldl max 0
  if longest < 2 then none else runs.find? (·.2 = longest)

def pieceTexts (pieces : List Nat) : List Char :=
  [':'].intercalate (pieces.map (Nat.toDigits 16))

/-- An address with its longest run of zeros left out. -/
def piecesText (pieces : List Nat) : List Char :=
  match longestZeroRun? pieces with
  | none => pieceTexts pieces
  | some (start, length) =>
      pieceTexts (pieces.take start) ++ ':' :: ':' :: pieceTexts (pieces.drop (start + length))

def bracketedAddress? (host : List Char) : Option (List Char) := do
  if host.getLast? ≠ some ']' then none
  let pieces ← readPieces? (host.drop 1).dropLast
  return '[' :: piecesText pieces ++ [']']

end KontaktScript.Uri
