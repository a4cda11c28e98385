import KontaktScript.Symbol.Kind
import KontaktScript.Text.Line

/-!
# Patterns

What is looked for in a text is described by a pattern.  Its parts are tried in
order of preference: a run is as long as it can be, and of two alternatives the
first one counts.  If the rest of the pattern cannot be matched behind a part, the
next choice for that part is tried.  Parts of a pattern that bear a number are
captured.
-/

namespace KontaktScript.Text

inductive CharClass where
  | blank
  | nameChar
  | sigil
  | only (c : Char)
  | anyBut (c : Char)
  deriving DecidableEq, Repr

def CharClass.holds : CharClass → Char → Bool
  | blank, c => isBlank c
  | nameChar, c => isNameChar c
  | sigil, c => (VarType.ofSigil? c).isSome
  | only expected, c => c == expected
  | anyBut excluded, c => c != excluded

inductive Pattern where
  | empty
  | one (cls : CharClass)
  /-- Any number of characters, and none too. -/
  | many (cls : CharClass)
  | seq (first second : Pattern)
  | either (first second : Pattern)
  | group (number : Nat) (inner : Pattern)
  deriving DecidableEq, Repr

/-- A place in a text: how many characters stand before it, and what follows. -/
structure Cursor where
  offset : Nat
  rest : List Char
  deriving DecidableEq, Repr

/-- A part of a text, and where it starts. -/
structure Capture where
  offset : Nat
  text : List Char
  deriving DecidableEq, Repr

/-- What was captured under each number. -/
abbrev Captures := List (Nat × Capture)

namespace Pattern

def chars : List Char → Pattern
  | [] => empty
  | c :: cs => seq (one (.only c)) (chars cs)

def oneOrMore (cls : CharClass) : Pattern :=
  seq (one cls) (many cls)

def optional (pattern : Pattern) : Pattern :=
  either pattern empty

/-- Tries what follows a run behind the longest one first. -/
def runMany {α : Type} (cls : CharClass) (next : Cursor → Option α) (offset : Nat) :
    List Char → Option α
  | [] => next ⟨offset, []⟩
  | c :: rest =>
      if cls.holds c then
        match runMany cls next (offset + 1) rest with
        | some result => some result
        | none => next ⟨offset, c :: rest⟩
      else next ⟨offset, c :: rest⟩

/-- Matches a pattern at a place, and what follows it behind. -/
def run {α : Type} : Pattern → Cursor → Captures → (Cursor → Captures → Option α) → Option α
  | empty, cursor, found, next => next cursor found
  | one cls, ⟨offset, rest⟩, found, next =>
      match rest with
      | [] => none
      | c :: rest => if cls.holds c then next ⟨offset + 1, rest⟩ found else none
  | many cls, ⟨offset, rest⟩, found, next => runMany cls (next · found) offset rest
  | seq first second, cursor, found, next =>
      first.run cursor found fun cursor found => second.run cursor found next
  | either first second, cursor, found, next =>
      match first.run cursor found next with
      | some result => some result
      | none => second.run cursor found next
  | group number inner, cursor, found, next =>
      inner.run cursor found fun stop found =>
        let text := cursor.rest.take (stop.offset - cursor.offset)
        next stop ((number, ⟨cursor.offset, text⟩) :: found)

def matchAt? (pattern : Pattern) (cursor : Cursor) : Option Captures :=
  pattern.run cursor [] fun _ found => some found

def match? (pattern : Pattern) (text : List Char) : Option Captures :=
  pattern.matchAt? ⟨0, text⟩

/-- What is captured at the first place where a pattern matches. -/
def search? (pattern : Pattern) (offset : Nat) : List Char → Option Captures
  | [] => pattern.matchAt? ⟨offset, []⟩
  | c :: rest =>
      match pattern.matchAt? ⟨offset, c :: rest⟩ with
      | some found => some found
      | none => pattern.search? (offset + 1) rest

end Pattern

namespace Captures

def text? (found : Captures) (number : Nat) : Option (List Char) :=
  (found.lookup number).map Capture.text

end Captures

end KontaktScript.Text
