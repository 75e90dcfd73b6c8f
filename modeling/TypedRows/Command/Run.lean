import TypedRows.Command.Help
import TypedRows.Emit.Write
import TypedRows.Project.Load
import TypedRows.Report.Model

/-!
The command: what it prints and writes, and how it ends.
-/

namespace TypedRows

/-- What the command leaves: the exit code and the two outputs. -/
structure Outcome where
  code : UInt32
  output : String
  errors : String
  deriving DecidableEq

namespace Command

def versionText : String := "rowgen 0.1.0\n"

def usageText : String :=
  "error: the arguments cannot be understood\n\n" ++
  "Usage: rowgen [OPTIONS] <COMMAND>\n\n" ++
  "For more information, try '--help'.\n"

def checkText (project : Project) : String :=
  s!"ok: {project.statements.length} statements in {project.namespaces.length} namespaces, " ++
    s!"{project.shared.all.length} shared results, " ++
    s!"{project.migrations.migrations.length} migrations\n"

def migrationLine (m : Migration) : String :=
  s!"{Emit.paddedVersion m.version}  {m.checksum}  {m.fileName}\n"

def migrationsText (set : MigrationSet) : String :=
  String.join (set.migrations.map migrationLine) ++
    match set.latest? with
    | some latest => s!"latest: {latest}\n"
    | none => "no migrations\n"

variable {m : Type → Type} [Monad m]

def perform (fs : FileSystem m) (settings : Settings) : Action → Attempt m String
  | .generate out => do
    let project ← Project.load fs settings
    let paths ← Emit.writeProject fs project settings out
    return String.join (paths.map (· ++ "\n"))
  | .check => checkText <$> Project.load fs settings
  | .inspect out => do
    let text := (← Project.load fs settings).json.pretty ""
    match out with
    | some path =>
      Attempt.ofFile none (fs.write path text)
      return ""
    | none => return text ++ "\n"
  | .migrations => migrationsText <$> Project.loadMigrations fs settings.migrationsPath

def run (fs : FileSystem m) (arguments : List String) : m Outcome := do
  match Request.ofArguments arguments with
  | .version => return ⟨0, versionText, ""⟩
  | .help topic => return ⟨0, topic.page.text, ""⟩
  | .usage => return ⟨2, "", usageText⟩
  | .run config action =>
    let attempt : Attempt m String := do
      let settings ← Settings.load fs config
      perform fs settings action
    match ← attempt.run with
    | .ok output => return ⟨0, output, ""⟩
    | .error failure => return ⟨1, "", failure.report ++ "\n"⟩

end Command

end TypedRows
