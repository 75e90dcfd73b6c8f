import TypedRows.Migration.Checksum
import TypedRows.Migration.FileName
import TypedRows.Path
import TypedRows.Schema.Build

/-!
The migrations of a project in the order of their numbers.
-/

namespace TypedRows

open Sql

structure Migration where
  version : Nat
  description : Option String
  fileName : String
  path : String
  sql : String
  /-- The statements without comments, in order. -/
  statements : List String
  checksum : String

structure MigrationSet where
  /-- In ascending order of versions. -/
  migrations : List Migration

namespace MigrationSet

structure Candidate where
  fileName : String
  path : String
  sql : String
  name : MigrationName

namespace Candidate

/-- The candidate that a file is, unless its name does not end in `.sql`. -/
def ofFile (file : String × String) : Except Error (Option Candidate) :=
  match Path.fileName? file.1 with
  | none => .ok none
  | some fileName =>
    if (Text.dropSuffix? fileName ".sql").isNone then .ok none
    else do
      let name ← MigrationName.parse fileName
      return some { fileName, path := file.1, sql := file.2, name }

def migration (candidate : Candidate) : Except Error Migration := do
  let chunks ← (Script.chunks candidate.sql).mapError .sql
  return {
    version := candidate.name.version
    description := candidate.name.description
    fileName := candidate.fileName
    path := candidate.path
    sql := candidate.sql
    statements := (chunks.map Chunk.render).filter fun s => !(Text.trim s).isEmpty
    checksum := Checksum.ofText candidate.sql }

end Candidate

/-- Refuses the second of two candidates with one number. -/
def checkVersions : List Candidate → List Candidate → Except Error Unit
  | _, [] => .ok ()
  | seen, candidate :: rest =>
    match seen.find? fun c => c.name.version == candidate.name.version with
    | some first =>
      .error (.migrationVersion candidate.name.version first.fileName candidate.fileName)
    | none => checkVersions (candidate :: seen) rest

def checkDigits (candidate : Candidate) : Except Error Unit :=
  if candidate.name.digits.toList.length = versionDigits then .ok ()
  else .error (.migrationName candidate.fileName .digits)

/-- The migrations among files given by path and text. The order of the files does not matter. -/
def ofFiles (files : List (String × String)) : Except Error MigrationSet := do
  let candidates := (← files.mapM Candidate.ofFile).filterMap id
  let byName := candidates.mergeSort fun a b => decide (a.fileName ≤ b.fileName)
  -- from here on the faults are found in the order of the names, and not of the files
  checkVersions [] byName
  byName.forM checkDigits
  let migrations ← byName.mapM Candidate.migration
  return ⟨migrations.mergeSort fun a b => decide (a.version ≤ b.version)⟩

def empty : MigrationSet := ⟨[]⟩

def latest? (set : MigrationSet) : Option Nat :=
  set.migrations.getLast?.map Migration.version

end MigrationSet

/-- The catalog that the migrations build when they are run in order. The name of a file that
cannot be read goes with the error. -/
def Catalog.ofMigrations (set : MigrationSet) : Except (Option String × Error) Catalog := do
  let scripts ← set.migrations.mapM fun migration =>
    (Script.parse migration.sql).mapError fun e => (some migration.fileName, Error.sql e)
  (Catalog.ofScript scripts.flatten).mapError fun e => (none, e)

end TypedRows
