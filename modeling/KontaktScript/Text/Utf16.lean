/-!
# UTF-16 columns

Editors count columns in UTF-16 code units, the rest of the library counts
characters.  A character outside the basic plane takes two units, so a column
may also point between the two halves of one character; such a column is read
as the end of that character.
-/

namespace KontaktScript.Text.Utf16

def units (c : Char) : Nat :=
  if c.toNat < 0x10000 then 1 else 2

def length (cs : List Char) : Nat :=
  cs.foldr (fun c rest => units c + rest) 0

/-- The code unit column at which character number `index` starts; past the
end of the text, the text's length. -/
def toColumn (cs : List Char) (index : Nat) : Nat :=
  length (cs.take index)

/-- The first character that starts at or after the code unit column; past the
end of the text, the number of characters. -/
def ofColumn : List Char → Nat → Nat
  | [], _ => 0
  | _ :: _, 0 => 0
  | c :: cs, column + 1 => ofColumn cs (column + 1 - units c) + 1

@[simp]
theorem length_nil : length [] = 0 := rfl

@[simp]
theorem length_cons (c : Char) (cs : List Char) :
    length (c :: cs) = units c + length cs := rfl

@[simp]
theorem length_append (left right : List Char) :
    length (left ++ right) = length left + length right := by
  induction left with
  | nil => simp
  | cons c left ih => simp [ih, Nat.add_assoc]

end KontaktScript.Text.Utf16
