import TypedRows.Emit.Migrations
import TypedRows.Emit.Namespace
import TypedRows.Project

/-!
The files that are generated for a project.
-/

namespace TypedRows.Emit

/-- A file by its path within the directory of the generated module. -/
structure GeneratedFile where
  path : String
  text : String
  deriving DecidableEq

/-- The module that runs the migrations. -/
def migrationsModule : String := "schema_migrations"

def namespaceFile (project : Project) (entry : String × List TypedStatement) : GeneratedFile :=
  ⟨Naming.snakeCase entry.1 ++ ".rs", namespaceText entry.1 entry.2 project.shared⟩

/-- The module that declares the others. -/
def rootText (project : Project) : String :=
  let modules := project.namespaces.map fun entry => identifier (Naming.snakeCase entry.1)
  Lines.text (["//! Generated by rowgen; do not edit.", ""] ++
    (modules ++ [migrationsModule]).map fun name => s!"pub mod {name};")

def files (project : Project) : List GeneratedFile :=
  project.namespaces.map (namespaceFile project) ++
    [⟨migrationsModule ++ ".rs", migrationsText project.migrations⟩,
      ⟨"mod.rs", rootText project⟩]

end TypedRows.Emit
