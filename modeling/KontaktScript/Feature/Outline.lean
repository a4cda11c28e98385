import KontaktScript.Feature.Reference

/-!
# Outline

The editor lists the declarations of a document with their places.
-/

namespace KontaktScript

structure OutlineEntry where
  name : String
  detail : String
  role : Role
  range : Range
  selection : Range
  deriving DecidableEq, Repr

namespace OutlineEntry

def ofDeclaration (doc : Document) (declaration : Declaration) : OutlineEntry where
  name := declaration.written
  detail :=
    let controlType := declaration.attributes.controlType
    if controlType = "" then declaration.container
    else declaration.container ++ " (" ++ controlType ++ ")"
  role := declaration.role
  range := doc.rangeOf declaration.range
  selection := doc.rangeOf declaration.selection

def roleNumber : Role → Int
  | .constant => 14
  | .var => 13
  | .routine => 12

def toJson (entry : OutlineEntry) : Json :=
  .object [("name", .string entry.name), ("detail", .string entry.detail),
    ("kind", .int (roleNumber entry.role)), ("range", entry.range.toJson),
    ("selectionRange", entry.selection.toJson)]

end OutlineEntry

def outline (doc : Document) : List OutlineEntry :=
  (declarations doc none).map (OutlineEntry.ofDeclaration doc)

end KontaktScript
