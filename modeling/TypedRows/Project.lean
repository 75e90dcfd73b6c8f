import TypedRows.Migration.MigrationSet
import TypedRows.SharedResult

/-!
A project after analysis: its schema, its statements by namespace, and its migrations.
-/

namespace TypedRows

structure Project where
  catalog : Catalog
  /-- The statements of each namespace, in ascending order of names. -/
  namespaces : List (String × List TypedStatement)
  shared : SharedResults
  migrations : MigrationSet

namespace Project

def initial (catalog : Catalog) (migrations : MigrationSet) : Project :=
  ⟨catalog, [], .empty, migrations⟩

/-- Adds statements to the namespace `name`, which is made if need be. -/
def extendNamespace (name : String) (statements : List TypedStatement) :
    List (String × List TypedStatement) → List (String × List TypedStatement)
  | [] => [(name, statements)]
  | (other, list) :: rest =>
    if other = name then (other, list ++ statements) :: rest
    else if name < other then (name, statements) :: (other, list) :: rest
    else (other, list) :: extendNamespace name statements rest

def openNamespace (project : Project) (name : String) : Project :=
  { project with namespaces := extendNamespace name [] project.namespaces }

/-- Adds a statement to its namespace, and registers the result that it names. -/
def addStatement (project : Project) (statement : TypedStatement) : Except Error Project := do
  let shared ←
    if statement.overrides.queryResult.isSome then
      (·.1) <$> project.shared.register statement statement.namespace
    else pure project.shared
  return {
    project with
    shared
    namespaces := extendNamespace statement.namespace [statement] project.namespaces }

/-- A query: where it comes from, and its text. -/
structure Query where
  place : TypedStatement.Place
  text : String

def addQuery (context : Context) (project : Project) (query : Query) : Except Error Project := do
  project.addStatement (← TypedStatement.ofText context query.place query.text)

/-- The project of a schema, queries in order, and migration files. -/
def ofQueries (context : Context) (queries : List Query) (migrations : MigrationSet) :
    Except Error Project :=
  queries.foldlM (addQuery context) (initial context.catalog migrations)

def statements (project : Project) : List TypedStatement :=
  project.namespaces.flatMap Prod.snd

def statement? (project : Project) («namespace» name : String) : Option TypedStatement :=
  (project.namespaces.find? fun entry => entry.1 == «namespace»).bind fun entry =>
    entry.2.find? fun s => s.name == name

end Project

end TypedRows
