import KontaktScript.Builtin.Basic
import KontaktScript.Feature.Reference
import KontaktScript.Settings

/-!
# Hover

Over an identifier the editor shows how the symbol is declared and what it is.
A builtin is shown before a declaration of the same name, unless the settings
turn builtins off.
-/

namespace KontaktScript

/-- A piece of what is shown. -/
inductive Marked where
  | code (text : String)
  | text (text : String)
  deriving DecidableEq, Repr

structure Hover where
  contents : List Marked
  range : Range
  deriving DecidableEq, Repr

namespace Hover

def ofBuiltin (builtin : Builtin) : List Marked :=
  .code builtin.decl :: if builtin.doc = "" then [] else [.text builtin.doc]

def ofDeclaration (declaration : Declaration) : List Marked :=
  let controlType := declaration.attributes.controlType
  [.code declaration.attributes.rendered, .text declaration.container] ++
    if controlType = "" then [] else [.text ("Control type: `" ++ controlType ++ "`")]

/-- The builtin that an identifier names, if builtins are to be shown. -/
def builtin? (tables : Tables) (settings : Settings) (identifier : String) : Option Builtin :=
  if settings.hoverBuiltins then tables.find? identifier else none

def contents? (tables : Tables) (settings : Settings) (doc : Document) (identifier : String) :
    Option (List Marked) :=
  match builtin? tables settings identifier with
  | some builtin => some (ofBuiltin builtin)
  | none => (resolve? (declarations doc none) identifier).map ofDeclaration

def at? (tables : Tables) (settings : Settings) (doc : Document) (position : Position) :
    Option Hover := do
  let token ← identifierAt? doc position
  let contents ← contents? tables settings doc token.text
  return { contents, range := doc.rangeOf token.span }

end Hover

def Marked.toJson : Marked → Json
  | .code shown => .object [("language", .string "ksp"), ("value", .string shown)]
  | .text shown => .string shown

def Hover.toJson (hover : Hover) : Json :=
  .object [("contents", .array (hover.contents.map Marked.toJson)),
    ("range", hover.range.toJson)]

end KontaktScript
