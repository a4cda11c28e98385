/-!
# Builtins

The commands, variables and control keywords that every script can use.
-/

namespace KontaktScript

structure Builtin where
  /-- With the sigil of a variable. -/
  name : String
  /-- How it is used. -/
  decl : String
  doc : String
  group : String
  deriving DecidableEq, Repr

structure Tables where
  commands : List Builtin
  vars : List Builtin
  controls : List Builtin
  deriving DecidableEq, Repr

namespace Tables

def all (tables : Tables) : List Builtin :=
  tables.commands ++ tables.vars ++ tables.controls

abbrev Index := List (String × Builtin)

/-- Enters a builtin under its name, unless the name is taken. -/
def Index.enter (index : Index) (builtin : Builtin) : Index :=
  if (index.lookup builtin.name).isSome then index else (builtin.name, builtin) :: index

def index (tables : Tables) : Index :=
  tables.all.foldl Index.enter []

/-- The builtin with a name: a command before a variable before a control, and
the first of several in one table. -/
def find? (tables : Tables) (name : String) : Option Builtin :=
  tables.index.lookup name

end Tables

end KontaktScript
