import KontaktScript.Builtin.Basic
import KontaktScript.Feature.Reference

/-!
# Completion

The editor offers what is declared above the cursor's line, and then the
builtins.  Callbacks cannot be referred to and are not offered.  Of several
candidates with one label the first is offered, so a declaration hides a
builtin.
-/

namespace KontaktScript

structure CompletionItem where
  label : String
  role : Role
  detail : String
  /-- The group of a builtin. -/
  group : Option String := none
  documentation : Option String := none
  deriving DecidableEq, Repr

namespace CompletionItem

def ofDeclaration (declaration : Declaration) : CompletionItem where
  label := declaration.written
  role := declaration.role
  detail := declaration.container

def ofBuiltin (role : Role) (builtin : Builtin) : CompletionItem where
  label := builtin.name
  role := role
  detail := builtin.decl
  group := some builtin.group
  documentation := if builtin.doc = "" then none else some builtin.doc

/-- The declarations above a line that can be referred to. -/
def ofDeclarations (doc : Document) (line : Nat) : List CompletionItem :=
  ((declarations doc (some line)).filter fun d => !d.isCallback).map ofDeclaration

def ofTables (tables : Tables) : List CompletionItem :=
  tables.commands.map (ofBuiltin .routine) ++ tables.vars.map (ofBuiltin .var)

/-- Everything that could be offered on a line, in order of preference. -/
def candidates (tables : Tables) (doc : Document) (line : Nat) (builtins : Bool) :
    List CompletionItem :=
  ofDeclarations doc line ++ if builtins then ofTables tables else []

def firstOfLabel : List CompletionItem → List CompletionItem
  | [] => []
  | item :: items => item :: (firstOfLabel items).filter (·.label != item.label)

def roleNumber : Role → Int
  | .constant => 21
  | .var => 6
  | .routine => 3

def toJson (item : CompletionItem) : Json :=
  .object ([("label", .string item.label)] ++
    (item.group.map fun group =>
      ("labelDetails", Json.object [("description", .string group)])).toList ++
    [("kind", .int (roleNumber item.role)), ("detail", .string item.detail)] ++
    (item.documentation.map fun text => ("documentation", Json.string text)).toList)

end CompletionItem

def completions (tables : Tables) (doc : Document) (line : Nat) (builtins : Bool) :
    List CompletionItem :=
  CompletionItem.firstOfLabel (CompletionItem.candidates tables doc line builtins)

end KontaktScript
