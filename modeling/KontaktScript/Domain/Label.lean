import KontaktScript.Domain.Mapping
import KontaktScript.Domain.Punycode
import KontaktScript.Text.Canonical.Form
import KontaktScript.Text.Direction
import KontaktScript.Text.Joining
import KontaktScript.Text.Mark

/-!
# Labels of a domain name

A label is given by its characters.  One that starts with `xn--` is in
Punycode and stands for the label decoded from it.
-/

namespace KontaktScript.Domain

open Text

/-- The characters of ASCII that no label may hold. -/
def isForbidden (c : Char) : Bool :=
  c.toNat ≤ 0x20 || c.toNat == 0x7F || "%#/:<>?@[\\]^|".toList.contains c

def nonJoiner : Char := '\u200c'

def joiner : Char := '\u200d'

/-- The combining class of the marks that take a consonant its vowel. -/
def viramaClass : Nat := 9

/-- Whether a joiner or nonjoiner is in its place, given the characters before
it in reverse and those behind it.  Both may follow a virama; a nonjoiner may
also stand between letters that would join. -/
def isJoinerInPlace (c : Char) (before behind : List Char) : Bool :=
  match before with
  | [] => false
  | previous :: _ =>
      combiningClass previous == viramaClass ||
        (c == nonJoiner && startsIn joiningForward before && startsIn joiningBackward behind)

def areJoinersInPlace (before : List Char) : List Char → Bool
  | [] => true
  | c :: behind =>
      ((c != joiner && c != nonJoiner) || isJoinerInPlace c before behind) &&
        areJoinersInPlace (c :: before) behind

/-- The longest label that is brought into Punycode. -/
def encodingLimit : Nat := 1000

/-- The longest text that is read as Punycode. -/
def decodingLimit : Nat := 2000

/-- Whether a label without forbidden characters is valid.  Labels in ASCII
hold neither marks nor joiners. -/
def isValid (label : List Char) : Bool :=
  label.all isAscii ||
    (!(label.head?.any isMark) && areJoinersInPlace [] label &&
      label.length ≤ encodingLimit)

def punycodeLead : List Char := "xn--".toList

/-- The label that a text in Punycode stands for.  Decoded characters must be
written as themselves and in normal form. -/
def decodeLabel? (text : List Char) : Option (List Char) := do
  if !text.all isAscii || text.getLast?.all (· == '-') || decodingLimit < text.length then none
  let label ← Punycode.decode? text
  if label.all isKept && canonical label == label then some label else none

def readLabel? (text : List Char) : Option (List Char) := do
  let label ←
    if punycodeLead.isPrefixOf text then decodeLabel? (text.drop punycodeLead.length)
    else some text
  if label.any (fun c => isForbidden c || c == '.') then none
  else if isValid label then some label
  else none

def asciiLabel (label : List Char) : List Char :=
  if label.all isAscii then label else punycodeLead ++ Punycode.encode label

def isRightToLeft (direction : Direction) : Bool :=
  direction = .rightToLeft || direction = .arabicLetter || direction = .arabicNumber

/-- Whether a label is written in one direction throughout.  It starts with a
letter of that direction and ends, marks aside, with a letter of it or a
number; a label from right to left has numbers of one kind only. -/
def hasOneDirection (label : List Char) : Bool :=
  let directions := label.map Direction.ofChar
  let last := (directions.reverse.dropWhile (· = .nonspacing)).head?
  match directions with
  | [] => true
  | .leftToRight :: rest =>
      rest.all [.leftToRight, .europeanNumber, .neutral, .nonspacing].contains &&
        last.all [.leftToRight, .europeanNumber].contains
  | .rightToLeft :: rest | .arabicLetter :: rest =>
      !rest.contains .leftToRight &&
        last.all [.rightToLeft, .arabicLetter, .europeanNumber, .arabicNumber].contains &&
        !(rest.contains .europeanNumber && rest.contains .arabicNumber)
  | _ => false

end KontaktScript.Domain
