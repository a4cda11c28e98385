import KontaktScript.Domain.MappingTable

/-!
# Mapping of characters

Before a domain name is looked at, characters that are taken for the same are
written as one: letters in lower case, presentation forms as the letters they
present.  Some characters are dropped, and some may not occur at all.
-/

namespace KontaktScript.Domain

open Text

/-- What the characters of a range are written as. -/
structure Rule where
  first : Nat
  last : Nat
  step : Nat
  image : List Nat

namespace Rule

def ofWord (word : List Char) : Rule :=
  let (domain, image) := splitFirst ':' word
  let (range, step) := splitFirst '/' domain
  let (first, last) := CodePoints.rangeOf range
  { first, last
    step := if step = [] then 1 else hexNumber step
    image := (splitAt (· == '.') image).filter (· ≠ []) |>.map hexNumber }

def covers (rule : Rule) (c : Char) : Bool :=
  rule.first ≤ c.toNat && c.toNat ≤ rule.last && (c.toNat - rule.first) % rule.step == 0

def apply (rule : Rule) (c : Char) : List Char :=
  rule.image.map fun code => .ofNat (code + (c.toNat - rule.first))

end Rule

def rules : List Rule :=
  (words rulesTable.toList).map .ofWord

/-- What a character is written as; `none` if no name may hold it. -/
def mapChar? (c : Char) : Option (List Char) :=
  if isAscii c then some [c.toLower]
  else
    match rules.find? (·.covers c) with
    | some rule => some (rule.apply c)
    | none => if refused.contains c then none else some [c]

def isKept (c : Char) : Bool :=
  mapChar? c = some [c]

end KontaktScript.Domain
