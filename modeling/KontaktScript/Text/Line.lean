/-!
# Characters of a line

A line of a script is a list of characters.  White space is the Unicode
property `White_Space`, not the ASCII subset: a no-break space or an
ideographic space separates words just as a tab does.  Names, on the other
hand, are ASCII.
-/

namespace KontaktScript.Text

/-- One line of text, without its terminator. -/
abbrev Line := List Char

/-- The code points with the property `White_Space`, as inclusive ranges. -/
def blankRanges : List (Nat × Nat) :=
  [(0x09, 0x0D), (0x20, 0x20), (0x85, 0x85), (0xA0, 0xA0), (0x1680, 0x1680),
   (0x2000, 0x200A), (0x2028, 0x2029), (0x202F, 0x202F), (0x205F, 0x205F),
   (0x3000, 0x3000)]

def isBlank (c : Char) : Bool :=
  blankRanges.any fun range => range.1 ≤ c.toNat && c.toNat ≤ range.2

def trimLeft (cs : List Char) : List Char :=
  cs.dropWhile isBlank

def trimRight (cs : List Char) : List Char :=
  (cs.reverse.dropWhile isBlank).reverse

def trim (cs : List Char) : List Char :=
  trimRight (trimLeft cs)

/-- A character of a declared name: an ASCII letter, a digit or `_`. -/
def isNameChar (c : Char) : Bool :=
  c.isAlphanum || c == '_'

end KontaktScript.Text
