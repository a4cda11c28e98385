import KontaktScript.Builtin.Catalogue

/-!
# Listings of builtins

The listing is the source text from which the tables are compiled into a
server.  Its texts are raw literals, which end at the first quote that a number
sign follows.
-/

namespace KontaktScript

namespace Builtin

def literal (text : String) : String :=
  "r#\"" ++ text ++ "\"#"

def listing (builtin : Builtin) : String :=
  "\tRawNative \x7b\n" ++
  "\t\tname: " ++ literal builtin.name ++ ",\n" ++
  "\t\tdecl: " ++ literal builtin.decl ++ ",\n" ++
  "\t\tdoc: " ++ literal builtin.doc ++ ",\n" ++
  "\t\tgroup: " ++ literal builtin.group ++ ",\n" ++
  "\t\x7d,\n"

def tableListing (name : String) (table : List Builtin) : String :=
  "\nconst " ++ name ++ ": &[RawNative] = &[\n" ++ String.join (table.map listing) ++ "];\n"

end Builtin

def Tables.listing (tables : Tables) : String :=
  "// This file is auto-generated by a build script.\n" ++
  Builtin.tableListing "COMMANDS" tables.commands ++
  Builtin.tableListing "VARIABLES" tables.vars ++
  Builtin.tableListing "UI_CONTROLS" tables.controls

def Catalogue.listing (catalogue : Json) : Except CatalogueError String :=
  (Catalogue.tables catalogue).map Tables.listing

/-- What the build step finds around it: the directory of the sources, the
directory for its product, and the catalogue if it can be read. -/
structure BuildStep where
  sourceDirectory : Option String
  outputDirectory : Option String
  catalogue : Option Json

/-- What the build step leaves: its exit status, what it printed, and the
listing if it got that far. -/
structure BuildResult where
  status : Nat
  printed : String
  listing : Option String
  deriving DecidableEq, Repr

/-- Announces what the product depends on and then writes the listing. -/
def BuildStep.run (step : BuildStep) : BuildResult :=
  match step.sourceDirectory with
  | none => ⟨1, "", none⟩
  | some directory =>
      let printed := "cargo:rerun-if-changed=" ++ directory ++ "/data\n"
      match step.outputDirectory, step.catalogue.map Catalogue.listing with
      | some _, some (.ok listing) => ⟨0, printed, some listing⟩
      | _, _ => ⟨1, printed, none⟩

end KontaktScript
