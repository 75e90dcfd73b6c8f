import TypedRows.Config.Settings
import TypedRows.Files.Failure
import TypedRows.Project

/-!
Reading a project from its files.
-/

namespace TypedRows

open Sql

variable {m : Type → Type} [Monad m]

namespace Settings

/-- The settings at `path`. Without a file there the defaults hold. -/
def load (fs : FileSystem m) (path : String) : Attempt m Settings := do
  let root := rootOf path
  match ← fs.kind? path with
  | none => return ofRoot root
  | some _ =>
    let text ← Attempt.ofFile (some s!"failed to read config file {path}") (fs.read path)
    match ofText? root text with
    | some settings => return settings
    | none => throw ⟨some s!"failed to parse config file {path}", .settings⟩

end Settings

namespace Project

def isFile (fs : FileSystem m) (path : String) : Attempt m Bool := do
  return (← fs.kind? path) == some .file

def isDirectory (fs : FileSystem m) (path : String) : Attempt m Bool := do
  return (← fs.kind? path) == some .directory

def isSqlName (path : String) : Bool := Path.extension? path == some "sql"

def ascending (names : List String) : List String :=
  names.mergeSort fun a b => decide (a ≤ b)

/-- The files directly in a directory whose extension is `sql`, in ascending order. -/
def sqlFiles (fs : FileSystem m) (dir : String) : Attempt m (List String) := do
  let names ← Attempt.ofFile (some s!"failed to read directory {dir}") (fs.names dir)
  let paths := (ascending names).map (Path.join dir)
  (paths.filter isSqlName).filterM (isFile fs)

def loadScript (fs : FileSystem m) (path : String) : Attempt m (List ScriptItem) := do
  let text ← Attempt.ofFile (some s!"failed to read schema file {path}") (fs.read path)
  Attempt.ofError (some s!"failed to parse schema file {path}")
    ((Script.parse text).mapError .sql)

def loadCatalog (fs : FileSystem m) (dir : String) : Attempt m Catalog := do
  let scripts ← (← sqlFiles fs dir).mapM (loadScript fs)
  Attempt.ofError none (Catalog.ofScript scripts.flatten)

def loadMigrations (fs : FileSystem m) (dir : String) : Attempt m MigrationSet := do
  let names ←
    Attempt.ofFile (some s!"failed to read migrations directory {dir}") (fs.names dir)
  let paths ← (names.map (Path.join dir)).filterM (isFile fs)
  let files ← (paths.filter isSqlName).mapM fun path => do
    let text ← Attempt.ofFile (some s!"failed to read migration {path}") (fs.read path)
    return (path, text)
  Attempt.ofError none (MigrationSet.ofFiles files)

def catalogOf (migrations : MigrationSet) : Attempt m Catalog :=
  match Catalog.ofMigrations migrations with
  | .ok catalog => return catalog
  | .error (file, e) =>
    throw ⟨file.map fun name => s!"failed to parse migration {name}", .error e⟩

/-- Reads and analyses a query file. The statement is named after the file. -/
def loadStatement (fs : FileSystem m) (context : Context) («namespace» path : String) :
    Attempt m TypedStatement := do
  let text ← Attempt.ofFile (some s!"failed to read query file {path}") (fs.read path)
  let name := (Path.stem? path).getD ""
  Attempt.ofError (some s!"failed to process {path}")
    (TypedStatement.ofText context ⟨name, «namespace», path⟩ text)

def addFile (fs : FileSystem m) (context : Context) («namespace» : String) (project : Project)
    (path : String) : Attempt m Project := do
  let statement ← loadStatement fs context «namespace» path
  Attempt.ofError (some s!"failed to register {path}") (project.addStatement statement)

/-- The namespace of the query files that are not in a directory of their own. -/
def defaultNamespace : String := "default"

/-- The namespaces with their directories: the default one, and one for each directory. -/
def queryGroups (fs : FileSystem m) (dir : String) : Attempt m (List (String × String)) := do
  let own ← sqlFiles fs dir
  let names ← Attempt.ofFile (some s!"failed to read directory {dir}") (fs.names dir)
  let dirs ← (ascending names).filterM fun name => isDirectory fs (Path.join dir name)
  let groups := dirs.map fun name => (name, Path.join dir name)
  return if own.isEmpty then groups else (defaultNamespace, dir) :: groups

def addGroup (fs : FileSystem m) (context : Context) (project : Project)
    (group : String × String) : Attempt m Project := do
  (← sqlFiles fs group.2).foldlM (addFile fs context group.1) (project.openNamespace group.1)

/-- Reads a project: its migrations, its schema, and then its queries. Without a schema directory
the migrations make the schema. -/
def load (fs : FileSystem m) (settings : Settings) : Attempt m Project := do
  let migrationsDir := settings.migrationsPath
  let migrations ←
    if ← isDirectory fs migrationsDir then loadMigrations fs migrationsDir
    else pure .empty
  let schemaDir := settings.schemaPath
  let catalog ←
    if ← isDirectory fs schemaDir then loadCatalog fs schemaDir
    else catalogOf migrations
  let context := Context.ofCatalog catalog settings.typeMap
  let project := initial catalog migrations
  let queriesDir := settings.queriesPath
  if ← isDirectory fs queriesDir then
    (← queryGroups fs queriesDir).foldlM (addGroup fs context) project
  else return project

end Project

end TypedRows
