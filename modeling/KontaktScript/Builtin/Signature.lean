import KontaktScript.Text.Pattern

/-!
# Signatures of builtins

A builtin is described by a line that shows how it is used, with its name in
braces.  The braces serve only to find the name and are not shown.
-/

namespace KontaktScript

open Text

/-- A text split around the first name in braces. -/
structure Placeholder where
  before : List Char
  name : List Char
  behind : List Char
  deriving DecidableEq, Repr

namespace Placeholder

open Text.Pattern

def namePattern : Pattern :=
  seq (optional (one .sigil)) (oneOrMore .nameChar)

def pattern : Pattern :=
  group 0 (seq (one (.only '\x7b')) (seq (group 1 namePattern) (one (.only '\x7d'))))

/-- The first name in braces of a text. -/
def find? (text : List Char) : Option Placeholder := do
  let found ← pattern.search? 0 text
  let whole ← found.lookup 0
  let name ← found.text? 1
  some ⟨text.take whole.offset, name, text.drop (whole.offset + whole.text.length)⟩

end Placeholder

structure Signature where
  /-- How the builtin is used, as shown to the user. -/
  shown : String
  name : String
  deriving DecidableEq, Repr

/-- Reads a description; `none` if it names nothing in braces. -/
def Signature.read? (description : String) : Option Signature :=
  (Placeholder.find? description.toList).map fun found =>
    { shown := String.ofList (found.before ++ found.name ++ found.behind)
      name := String.ofList found.name }

end KontaktScript
