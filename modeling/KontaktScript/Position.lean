import KontaktScript.Json.Basic

/-!
# Places in a document

A `Point` counts characters and is what scanning a line yields.  A `Position`
counts UTF-16 code units and is what an editor sends and receives.  Both are
pairs of 32-bit words, as the protocol has them.
-/

namespace KontaktScript

/-- A line and a character column, both from zero. -/
structure Point where
  line : UInt32
  column : UInt32
  deriving DecidableEq, Repr, Inhabited

/-- The characters from `start` up to, not including, `stop`. -/
structure Span where
  start : Point
  stop : Point
  deriving DecidableEq, Repr, Inhabited

/-- A line and a UTF-16 column, both from zero. -/
structure Position where
  line : UInt32
  character : UInt32
  deriving DecidableEq, Repr, Inhabited

/-- The code units from `start` up to, not including, `stop`. -/
structure Range where
  start : Position
  stop : Position
  deriving DecidableEq, Repr, Inhabited

def Position.toJson (position : Position) : Json :=
  .object [("line", .int position.line.toNat), ("character", .int position.character.toNat)]

def Range.toJson (range : Range) : Json :=
  .object [("start", range.start.toJson), ("end", range.stop.toJson)]

end KontaktScript
