import KontaktScript.Domain.Label

/-!
# Domain names

A domain name in ASCII, as it is asked for: its characters mapped and in normal
form, each label checked, and those beyond ASCII in Punycode.
-/

namespace KontaktScript.Domain

open Text

/-- The labels of a name, cut at its full stops, also at those that only
mapping makes full stops. -/
def labels? (name : List Char) : Option (List (List Char)) := do
  let mapped ← name.mapM mapChar?
  (splitAt (· == '.') (canonical mapped.flatten)).mapM readLabel?

/-- A name in ASCII; `none` if it is no valid name.  If any label is written
from right to left, every label must be written in one direction. -/
def toAscii? (name : List Char) : Option (List Char) := do
  let labels ← labels? name
  let isMixed := labels.any (·.any (isRightToLeft ∘ Direction.ofChar))
  if isMixed && !labels.all hasOneDirection then none
  return ['.'].intercalate (labels.map asciiLabel)

end KontaktScript.Domain
