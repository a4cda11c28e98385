import KontaktScript.Document
import KontaktScript.Symbol.Kind
import KontaktScript.Word

/-!
# The token at a cursor

The token at a cursor is the word the cursor stands in or directly behind.  Its
text has the quotes around it, its span has not.
-/

namespace KontaktScript

open Text

structure Token where
  text : String
  span : Span
  deriving DecidableEq, Repr

namespace Token

/-- The offset of a word character at the cursor or directly before it. -/
def anchor? (line : Line) (cursor : Nat) : Option Nat :=
  if Word.isInnerAt line cursor then some cursor
  else if 0 < cursor ∧ Word.isInnerAt line (cursor - 1) then some (cursor - 1)
  else none

/-- The first offset of the word around a word character.  `Word.first` stays
at the cursor when no boundary comes before it; the word then starts the
line. -/
def firstOffset (line : Line) (i : Nat) : Nat :=
  let start := Word.first line i
  if start = i ∧ 0 < i ∧ Word.isInnerAt line (i - 1) then 0 else start

/-- The last offset of the word around a word character.  `Word.last` stays at
the cursor when no boundary comes behind it; the word then ends the line. -/
def lastOffset (line : Line) (i : Nat) : Nat :=
  let stop := Word.last line i
  if stop = i ∧ Word.isInnerAt line (i + 1) then line.length - 1 else stop

/-- The token the point stands in or directly behind. -/
def at? (doc : Document) (point : Point) : Option Token := do
  let line ← doc.line? point.line.toNat
  let i ← anchor? line point.column.toNat
  let text := Word.around line i
  if text.isEmpty then none
  else some {
    text := String.ofList text
    span := {
      start := ⟨point.line, (firstOffset line i).toUInt32⟩
      stop := ⟨point.line, (lastOffset line i).toUInt32 + 1⟩ } }

def isIdentifierChar (c : Char) : Bool :=
  isNameChar c || (VarType.ofSigil? c).isSome

end Token

/-- Whether a text could name a declaration or a builtin. -/
def isIdentifier (text : String) : Bool :=
  text.toList.head? != some '"' && text.toList.all Token.isIdentifierChar

end KontaktScript
