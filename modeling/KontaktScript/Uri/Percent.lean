import KontaktScript.Text.Hex

/-!
# Percent encoding

A byte is written as a percent sign and two upper-case hexadecimal digits.
Which ASCII characters are encoded depends on the part of the URI they stand
in; controls and characters beyond ASCII always are.  A percent sign itself
stays, so what is encoded already is left alone.
-/

namespace KontaktScript.Uri

open Text

def percentByte (byte : UInt8) : List Char :=
  ['%', (hexDigit (byte.toNat / 16)).toUpper, (hexDigit (byte.toNat % 16)).toUpper]

def percentChar (c : Char) : List Char :=
  c.toString.toUTF8.toList.flatMap percentByte

/-- Encodes the characters of a set, controls, and all beyond ASCII. -/
def percentEncode (encoded : List Char) (text : List Char) : List Char :=
  text.flatMap fun c =>
    if c.toNat < 0x20 ∨ 0x7F ≤ c.toNat ∨ c ∈ encoded then percentChar c else [c]

def fragmentSet : List Char := [' ', '"', '<', '>', '\x60']

def querySet : List Char := [' ', '"', '#', '<', '>']

def specialQuerySet : List Char := '\x27' :: querySet

def pathSet : List Char := fragmentSet ++ ['#', '?', '\x7b', '\x7d']

def userSet : List Char :=
  pathSet ++ ['/', ':', ';', '=', '@', '[', '\\', ']', '^', '|']

def percentDecode : List Char → List UInt8
  | '%' :: high :: low :: rest =>
      match hexValue? high, hexValue? low with
      | some h, some l => (h * 16 + l).toUInt8 :: percentDecode rest
      | _, _ => '%'.toUInt8 :: percentDecode (high :: low :: rest)
  | c :: rest => c.toString.toUTF8.toList ++ percentDecode rest
  | [] => []

/-- The text that a percent-encoded text stands for; `none` if its bytes are no
text. -/
def percentDecoded? (text : List Char) : Option (List Char) :=
  if text.contains '%' then
    (String.fromUTF8? (percentDecode text).toByteArray).map String.toList
  else some text

end KontaktScript.Uri
