import KontaktScript.Text.Line

/-!
# Words of a line

A word is a maximal run of characters none of which is a boundary.  A cursor is
a character offset, which may lie on a boundary or past the end of the line.
-/

namespace KontaktScript.Word

open Text

def delimiters : List Char :=
  ['(', ')', '\x7b', '\x7d', ':', '[', ']', ',', '+', '-', '/', '*', '<', '>', '^', '"']

def isBoundary (c : Char) : Bool :=
  isBlank c || delimiters.contains c

def isInner (c : Char) : Bool :=
  !isBoundary c

/-- The first offset of the word that holds the cursor.  The cursor itself if
no boundary stands before it on the line. -/
def first (line : Line) (cursor : Nat) : Nat :=
  let before := (line.take cursor).reverse
  let run := before.takeWhile isInner
  if run.length = before.length then cursor else before.length - run.length

/-- The last offset of the word that holds the cursor.  The cursor itself if no
boundary stands after it on the line. -/
def last (line : Line) (cursor : Nat) : Nat :=
  let behind := line.drop (cursor + 1)
  let run := behind.takeWhile isInner
  if run.length = behind.length then cursor else cursor + run.length

def leadingQuote : List Char → List Char
  | '"' :: _ => ['"']
  | _ => []

/-- The text of the word around the cursor.  A quote that ends it on either
side is kept, so that the inside of a one-word string literal comes with its
quotes. -/
def around (line : Line) (cursor : Nat) : List Char :=
  let before := (line.take cursor).reverse
  let behind := line.drop cursor
  let left := leadingQuote (before.dropWhile isInner) ++ (before.takeWhile isInner).reverse
  let right := behind.takeWhile isInner ++ leadingQuote (behind.dropWhile isInner)
  trim (left ++ right)

def isInnerAt (chars : Line) (i : Nat) : Bool :=
  (chars[i]?).any isInner

end KontaktScript.Word
