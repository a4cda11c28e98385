import KontaktScript.Text.Canonical.Table

/-!
# The composed normal form

Texts that differ only in how accented characters are put together are
canonically equivalent.  The composed form takes every character apart, brings
the marks on each character into the order of their classes, and puts the
characters together again.
-/

namespace KontaktScript.Text

/-! ## Syllables of Hangul

A syllable is put together from a leading consonant, a vowel and perhaps a
trailing consonant by arithmetic. -/

namespace Hangul

def leads : Nat := 0x1100
def vowels : Nat := 0x1161
def trails : Nat := 0x11A7
def syllables : Nat := 0xAC00

def leadCount : Nat := 19
def vowelCount : Nat := 21
def trailCount : Nat := 28

def letters? (c : Char) : Option (List Char) :=
  let index := c.toNat - syllables
  if syllables ≤ c.toNat ∧ index < leadCount * vowelCount * trailCount then
    let lead := Char.ofNat (leads + index / (vowelCount * trailCount))
    let vowel := Char.ofNat (vowels + index % (vowelCount * trailCount) / trailCount)
    let trail := index % trailCount
    some (lead :: vowel :: if trail = 0 then [] else [.ofNat (trails + trail)])
  else none

/-- The syllable that two letters, or a syllable and a trailing consonant, make
up. -/
def compose? (first second : Char) : Option Char :=
  let lead := first.toNat - leads
  let vowel := second.toNat - vowels
  let trail := second.toNat - trails
  if leads ≤ first.toNat ∧ lead < leadCount ∧ vowels ≤ second.toNat ∧ vowel < vowelCount then
    some (.ofNat (syllables + (lead * vowelCount + vowel) * trailCount))
  else if (letters? first).map List.length = some 2 ∧ trails < second.toNat ∧
      trail < trailCount then
    some (.ofNat (first.toNat + trail))
  else none

end Hangul

/-- Takes a character apart, and its first part again `depth` times. -/
def decomposeChar : Nat → Char → List Char
  | 0, c => [c]
  | depth + 1, c =>
      match Hangul.letters? c with
      | some letters => letters
      | none =>
          match composed.find? (·.whole == c) with
          | some pair => decomposeChar depth pair.first ++ [pair.second]
          | none => [c]

def decompositionDepth : Nat := 3

/-- Moves a mark behind those of lower classes that follow it. -/
def placeMark (c : Char) : List Char → List Char
  | [] => [c]
  | d :: ds =>
      if combiningClass d ≠ 0 ∧ combiningClass d < combiningClass c then d :: placeMark c ds
      else c :: d :: ds

/-- Brings the marks on each character into the order of their classes; those
of one class keep their order. -/
def orderMarks (text : List Char) : List Char :=
  text.foldr placeMark []

def composePair? (first second : Char) : Option Char :=
  match Hangul.compose? first second with
  | some syllable => some syllable
  | none =>
      (composed.find? fun pair => pair.first == first && pair.second == second).map (·.whole)

/-- Puts the characters of an ordered text together.  The character `base` has
not been given out yet, nor have the marks behind it that do not combine with
it.  A character combines with the base unless a mark of its own class or a
higher one stands between them. -/
def composeFrom (base : Char) (skipped : List Char) : List Char → List Char
  | [] => base :: skipped
  | c :: cs =>
      let isFree := match skipped.getLast? with
        | none => true
        | some mark => combiningClass mark < combiningClass c
      match if isFree then composePair? base c else none with
      | some whole => composeFrom whole skipped cs
      | none =>
          if combiningClass c = 0 then base :: skipped ++ composeFrom c [] cs
          else composeFrom base (skipped ++ [c]) cs

/-- Puts the characters of an ordered text together; marks at its start stay. -/
def composeText (text : List Char) : List Char :=
  let rest := text.dropWhile (combiningClass · ≠ 0)
  text.takeWhile (combiningClass · ≠ 0) ++
    match rest with
    | [] => []
    | base :: others => composeFrom base [] others

/-- The composed normal form of a text.  A text in ASCII is in it already. -/
def canonical (text : List Char) : List Char :=
  if text.all isAscii then text
  else composeText (orderMarks (text.flatMap (decomposeChar decompositionDepth)))

end KontaktScript.Text
