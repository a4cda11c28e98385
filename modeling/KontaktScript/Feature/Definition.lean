import KontaktScript.Feature.Reference
import KontaktScript.Uri.Basic

/-!
# Definition

From an identifier the editor jumps to the name in its declaration.
-/

namespace KontaktScript

structure Location where
  uri : Uri
  range : Range
  deriving DecidableEq, Repr

/-- The declared name with its sigil. -/
def Declaration.nameSpan (declaration : Declaration) : Span :=
  let start := declaration.location
  ⟨start, ⟨start.line, start.column + declaration.written.length.toUInt32⟩⟩

def Location.ofDefinition? (uri : Uri) (doc : Document) (position : Position) :
    Option Location :=
  (declarationAt? doc position).map fun declaration =>
    ⟨uri, doc.rangeOf declaration.nameSpan⟩

def Location.toJson (location : Location) : Json :=
  .object [("uri", .string location.uri.text), ("range", location.range.toJson)]

end KontaktScript
