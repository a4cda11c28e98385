import KontaktScript.Builtin.Basic
import KontaktScript.Builtin.Signature
import KontaktScript.Json.Basic

/-!
# Catalogues of builtins

A catalogue is an object with one member for each of the three categories.  A
category holds `groups`, an object from group names to arrays of entries; an
entry has a `decl`, which is a signature, and may have a `doc`.  Anything else
in it is passed over.
-/

namespace KontaktScript

open Text

inductive CatalogueError where
  /-- A category is missing or is no object. -/
  | missingCategory (key : String)
  /-- A group is no array. -/
  | malformedGroup (group : String)
  /-- An entry has no `decl`, or one that is no string. -/
  | missingDecl (group : String)
  /-- A `decl` names nothing in braces. -/
  | unnamed (decl : String)
  deriving DecidableEq, Repr

def CatalogueError.message : CatalogueError → String
  | missingCategory key => "`" ++ key ++ "` is missing from builtins.toml"
  | malformedGroup group => "group `" ++ group ++ "` is not an array of tables"
  | missingDecl group => "an entry in group `" ++ group ++ "` has no `decl`"
  | unnamed decl => "failed to extract name from declaration: `" ++ decl ++ "`"

namespace Catalogue

/-- The documentation of an entry without the white space around it; empty if
it has none that is a string. -/
def docOf (fields : Json.Fields) : String :=
  match (fields.lookup "doc").bind Json.string? with
  | some doc => String.ofList (trim doc.toList)
  | none => ""

def entry (group : String) (fields : Json.Fields) : Except CatalogueError Builtin :=
  match (fields.lookup "decl").bind Json.string? with
  | none => .error (.missingDecl group)
  | some decl =>
      match Signature.read? decl with
      | none => .error (.unnamed decl)
      | some signature => .ok ⟨signature.name, signature.shown, docOf fields, group⟩

/-- The entries of a list of items; items that are no objects are skipped. -/
def entries (group : String) : List Json → Except CatalogueError (List Builtin)
  | [] => .ok []
  | .object fields :: items => do
      let first ← entry group fields
      let rest ← entries group items
      return first :: rest
  | _ :: items => entries group items

/-- The entries of a category's groups, in the order of the groups. -/
def groups : Json.Fields → Except CatalogueError (List Builtin)
  | [] => .ok []
  | (group, .array items) :: rest => do
      let first ← entries group items
      let others ← groups rest
      return first ++ others
  | (group, _) :: _ => .error (.malformedGroup group)

def category (catalogue : Json) (key : String) : Except CatalogueError (List Builtin) :=
  match (catalogue.field? key).bind Json.object? with
  | none => .error (.missingCategory key)
  | some fields =>
      match (fields.lookup "groups").bind Json.object? with
      | none => .ok []
      | some fields => groups fields

def tables (catalogue : Json) : Except CatalogueError Tables := do
  let commands ← category catalogue "commands"
  let vars ← category catalogue "variables"
  let controls ← category catalogue "ui-controls"
  return { commands, vars, controls }

end Catalogue

end KontaktScript
