import KontaktScript.Text.Hex
import KontaktScript.Text.Split

/-!
# Sets of code points

A property of characters is given as a table.  Each word of the table is a
code point in hexadecimal digits, or two of them joined by a hyphen for all
code points from the one to the other.
-/

namespace KontaktScript.Text

/-- A set of code points, as inclusive ranges. -/
structure CodePoints where
  ranges : List (Nat × Nat)

namespace CodePoints

def contains (set : CodePoints) (c : Char) : Bool :=
  set.ranges.any fun range => range.1 ≤ c.toNat && c.toNat ≤ range.2

/-- The range that a word of a table stands for. -/
def rangeOf (word : List Char) : Nat × Nat :=
  let (first, last) := splitFirst '-' word
  (hexNumber first, hexNumber (if last = [] then first else last))

def ofTable (table : String) : CodePoints :=
  ⟨(words table.toList).map rangeOf⟩

end CodePoints

def isAscii (c : Char) : Bool :=
  c.toNat < 0x80

end KontaktScript.Text
