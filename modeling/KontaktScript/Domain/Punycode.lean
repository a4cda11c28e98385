/-!
# Punycode

The characters of a label beyond ASCII are written in ASCII letters and digits
behind the others: in the order of their code points, as the distance from one
to the next, counting every place at which it could be inserted.  A distance is
a number of variable length to the base 36 whose digits below a threshold end
it; the threshold follows the distances seen so far.
-/

namespace KontaktScript.Domain.Punycode

def base : Nat := 36

/-- The first code point that is written as a distance. -/
def firstCode : Nat := 0x80

def firstBias : Nat := 72

/-- Numbers from here on are too large. -/
def limit : Nat := UInt32.size

def digit (value : Nat) : Char :=
  if value < 26 then .ofNat ('a'.toNat + value) else .ofNat ('0'.toNat + (value - 26))

def digitValue? (c : Char) : Option Nat :=
  if c.isLower then some (c.toNat - 'a'.toNat)
  else if c.isUpper then some (c.toNat - 'A'.toNat)
  else if c.isDigit then some (c.toNat - '0'.toNat + 26)
  else none

/-- The threshold of the digit at `place`, which grows by `base` from one digit
to the next. -/
def threshold (place bias : Nat) : Nat :=
  if place ≤ bias then 1 else if bias + 26 ≤ place then 26 else place - bias

theorem threshold_pos (place bias : Nat) : 0 < threshold place bias := by
  unfold threshold
  split
  · omega
  · split <;> omega

def biasOf (distance bias : Nat) : Nat :=
  if 455 < distance then biasOf (distance / 35) (bias + base)
  else bias + base * distance / (distance + 38)
termination_by distance
decreasing_by omega

/-- The bias behind a distance, where the label then has `length` characters. -/
def adapt (distance length : Nat) (isFirst : Bool) : Nat :=
  let scaled := if isFirst then distance / 700 else distance / 2
  biasOf (scaled + scaled / length) 0

/-! ## Encoding -/

def digits (bias place distance : Nat) : List Char :=
  let least := threshold place bias
  if distance < least then [digit distance]
  else
    digit (least + (distance - least) % (base - least)) ::
      digits bias (place + base) ((distance - least) / (base - least))
termination_by distance
decreasing_by
  have hpos := threshold_pos place bias
  have hle := Nat.div_le_self (distance - threshold place bias) (base - threshold place bias)
  omega

structure Encoder where
  /-- The distance from the character written last. -/
  distance : Nat
  bias : Nat
  length : Nat
  isFirst : Bool
  /-- The digits written, in reverse. -/
  written : List Char

/-- Passes a character of the label while those with the code point `code` are
written. -/
def Encoder.pass (code : Nat) (encoder : Encoder) (c : Char) : Encoder :=
  if c.toNat < code then { encoder with distance := encoder.distance + 1 }
  else if c.toNat = code then
    { distance := 0
      bias := adapt encoder.distance (encoder.length + 1) encoder.isFirst
      length := encoder.length + 1
      isFirst := false
      written := (digits encoder.bias base encoder.distance).reverse ++ encoder.written }
  else encoder

/-- Writes the characters with the given code points, which ascend; `code` is
the first that has not been considered. -/
def encodeFrom (label : List Char) (encoder : Encoder) (code : Nat) : List Nat → List Char
  | [] => encoder.written.reverse
  | next :: codes =>
      let distance := encoder.distance + (next - code) * (encoder.length + 1)
      let passed := label.foldl (Encoder.pass next) { encoder with distance }
      encodeFrom label { passed with distance := passed.distance + 1 } (next + 1) codes

/-- A label in ASCII: its characters of ASCII, a hyphen if there are any, and
the digits of the others. -/
def encode (label : List Char) : List Char :=
  let basic := label.filter (·.toNat < firstCode)
  let codes := ((label.map Char.toNat).filter (firstCode ≤ ·)).mergeSort.eraseReps
  let written := encodeFrom label ⟨0, firstBias, basic.length, true, []⟩ firstCode codes
  if basic = [] then written else basic ++ '-' :: written

/-! ## Decoding -/

/-- Adds the distance in front of a text to `index`, giving back the text behind
it as well. -/
def readDistance? (bias place weight index : Nat) : List Char → Option (Nat × List Char)
  | [] => none
  | c :: cs => do
      let value ← digitValue? c
      let least := threshold place bias
      let index := index + value * weight
      if limit ≤ index then none
      else if value < least then some (index, cs)
      else if limit ≤ weight * (base - least) then none
      else readDistance? bias (place + base) (weight * (base - least)) index cs

theorem readDistance?_length_lt {bias place weight index : Nat} {text : List Char}
    {result : Nat × List Char}
    (hread : readDistance? bias place weight index text = some result) :
    result.2.length < text.length := by
  induction text generalizing place weight index with
  | nil => simp [readDistance?] at hread
  | cons c cs ih =>
      cases hvalue : digitValue? c with
      | none => simp [readDistance?, hvalue] at hread
      | some value =>
          simp only [readDistance?, hvalue, Option.bind_eq_bind, Option.bind_some] at hread
          split at hread
          · simp at hread
          · split at hread
            · simp only [Option.some.injEq] at hread
              subst hread
              simp
            · split at hread
              · simp at hread
              · have hlt := ih hread
                simp only [List.length_cons]
                omega

def char? (code : Nat) : Option Char :=
  if code.isValidChar then some (.ofNat code) else none

/-- Inserts the characters that the digits stand for into a label. -/
def insertFrom (label : List Char) (code index bias : Nat) (isFirst : Bool)
    (text : List Char) : Option (List Char) :=
  match text with
  | [] => some label
  | c :: cs =>
      match _hread : readDistance? bias base 1 index (c :: cs) with
      | none => none
      | some (sum, rest) =>
          let length := label.length + 1
          match char? (code + sum / length) with
          | none => none
          | some inserted =>
              insertFrom (label.insertIdx (sum % length) inserted) (code + sum / length)
                (sum % length + 1) (adapt (sum - index) length isFirst) false rest
termination_by text.length
decreasing_by
  have hlt := readDistance?_length_lt _hread
  simpa using hlt

/-- The label that a text in ASCII stands for. -/
def decode? (text : List Char) : Option (List Char) :=
  let coded := (text.reverse.takeWhile (· != '-')).reverse
  let basic := text.take (text.length - coded.length - 1)
  if basic = [] ∧ coded.length < text.length then none
  else insertFrom basic firstCode 0 firstBias true coded

end KontaktScript.Domain.Punycode
