import TypedRows.Config.Document
import TypedRows.Path
import TypedRows.TypeMap

/-!
The settings of a project: where its files are, and which Rust types it chooses.
-/

namespace TypedRows

structure Settings where
  /-- The directory that the others are relative to. -/
  root : String
  schemaDir : String
  queriesDir : String
  migrationsDir : String
  outputDir : String
  moduleName : String
  /-- SQL types with the Rust types chosen for them. -/
  types : OrderedMap String String

namespace Settings

def fileName : String := "rowgen.toml"

/-- The settings of a project at `root` without a configuration file. -/
def ofRoot (root : String) : Settings where
  root
  schemaDir := "schema"
  queriesDir := "queries"
  migrationsDir := "migrations"
  outputDir := "src"
  moduleName := "db"
  types := .empty

/-- A text, or the default if there is no value. Other values are refused. -/
def textOr (default : String) : Option ConfigValue → Option String
  | none => some default
  | some (.text s) => some s
  | some _ => none

/-- Sets the directories and the name of the module. `value` finds each by its name or place. -/
def withProject (settings : Settings) (value : String → Nat → Option ConfigValue) :
    Option Settings := do
  return {
    settings with
    schemaDir := ← textOr settings.schemaDir (value "schema_dir" 0)
    queriesDir := ← textOr settings.queriesDir (value "queries_dir" 1)
    migrationsDir := ← textOr settings.migrationsDir (value "migrations_dir" 2)
    outputDir := ← textOr settings.outputDir (value "output_dir" 3)
    moduleName := ← textOr settings.moduleName (value "module_name" 4) }

/-- The project may be given as a table, or as a list in the order of its keys. -/
def readProject (settings : Settings) : Option ConfigValue → Option Settings
  | none => some settings
  | some (.list items) => settings.withProject fun _ place => items[place]?
  | some value => do
    let entries ← value.entries?
    settings.withProject fun key _ => ConfigEntry.find? entries key

def typePairs : List ConfigEntry → Option (List (String × String))
  | [] => some []
  | ⟨key, .text s⟩ :: rest => (typePairs rest).map ((key, s) :: ·)
  | _ :: _ => none

def readTypes (settings : Settings) : Option ConfigValue → Option Settings
  | none => some settings
  | some value => do
    let pairs ← typePairs (← value.entries?)
    return { settings with types := .ofList pairs }

/-- The settings in the text of a configuration file. Unknown keys do not matter. -/
def ofText? (root text : String) : Option Settings := do
  let entries ← Config.Document.parse? text
  let settings ← (ofRoot root).readProject (ConfigEntry.find? entries "project")
  settings.readTypes (ConfigEntry.find? entries "types")

/-- The directory that a configuration file at `path` is the root of. -/
def rootOf (path : String) : String := (Path.parent? path).getD ""

def schemaPath (s : Settings) : String := Path.join s.root s.schemaDir

def queriesPath (s : Settings) : String := Path.join s.root s.queriesDir

def migrationsPath (s : Settings) : String := Path.join s.root s.migrationsDir

def outputPath (s : Settings) : String := Path.join s.root s.outputDir

def typeMap (s : Settings) : TypeMap := .ofPairs s.types.entries

end Settings

end TypedRows
