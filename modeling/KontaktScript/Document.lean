import KontaktScript.Position
import KontaktScript.Text.Line
import KontaktScript.Text.Utf16

/-!
# Documents

A document is a text with the byte offsets at which its lines start, so that a
line is cut out without walking the text before it.  Lines end at a line feed;
one carriage return before it belongs to the terminator.

Scanning asks no more of a text than its lines, which is what `LineSource`
offers for a document and for a plain list of lines alike.
-/

namespace KontaktScript

open Text

/-- Access to the lines of a text by number. -/
class LineSource (σ : Type) where
  lineCount : σ → Nat
  /-- The line without its terminator; empty if there is no such line. -/
  lineText : σ → Nat → Line

instance : LineSource (List String) where
  lineCount lines := lines.length
  lineText lines i := (lines.getD i "").toList

instance : LineSource (Array String) where
  lineCount lines := lines.size
  lineText lines i := (lines.getD i "").toList

/-- The byte offsets just past each line feed of a text that starts at byte
`offset`. -/
def lineStartsFrom (offset : Nat) : List Char → List Nat
  | [] => []
  | c :: cs =>
      let next := offset + c.utf8Size
      if c = '\n' then next :: lineStartsFrom next cs else lineStartsFrom next cs

def lineStarts (text : String) : Array Nat :=
  (lineStartsFrom 0 text.toList).toArray

/-- A text with the start of each line but the first. -/
structure Document where
  text : String
  starts : Array Nat
  starts_eq : starts = lineStarts text

namespace Document

def ofString (text : String) : Document where
  text := text
  starts := lineStarts text
  starts_eq := rfl

def lineCount (doc : Document) : Nat :=
  doc.starts.size + 1

/-- The bytes that line `i` takes without its line feed, as start and end
offset. -/
def lineBounds? (doc : Document) (i : Nat) : Option (Nat × Nat) := do
  let start ← match i with
    | 0 => some 0
    | before + 1 => doc.starts[before]?
  let stop := match doc.starts[i]? with
    | some next => next - 1
    | none => doc.text.utf8ByteSize
  some (start, stop)

def dropReturn (line : Line) : Line :=
  if line.getLast? = some '\r' then line.dropLast else line

def line? (doc : Document) (i : Nat) : Option Line :=
  (doc.lineBounds? i).map fun bounds =>
    dropReturn (String.Pos.Raw.extract doc.text ⟨bounds.1⟩ ⟨bounds.2⟩).toList

def lineText (doc : Document) (i : Nat) : Line :=
  (doc.line? i).getD []

instance : LineSource Document where
  lineCount := lineCount
  lineText := lineText

/-- The editor's position of a point; a column past the end of its line is the
end of the line. -/
def positionOf (doc : Document) (point : Point) : Position where
  line := point.line
  character :=
    (Utf16.toColumn (doc.lineText point.line.toNat) point.column.toNat).toUInt32

def rangeOf (doc : Document) (span : Span) : Range where
  start := doc.positionOf span.start
  stop := doc.positionOf span.stop

/-- The point at an editor's position; a column past the end of its line is the
end of the line. -/
def pointOf (doc : Document) (position : Position) : Point where
  line := position.line
  column :=
    (Utf16.ofColumn (doc.lineText position.line.toNat) position.character.toNat).toUInt32

end Document

end KontaktScript
