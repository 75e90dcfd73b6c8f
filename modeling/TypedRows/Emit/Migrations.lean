import TypedRows.Emit.Lines
import TypedRows.Emit.RawString
import TypedRows.Migration.MigrationSet

/-!
The generated module that runs the migrations: one function for each, and one that runs all that
are newer than a database.
-/

namespace TypedRows.Emit

/-- A version with zeros in front, to the digits of a file name. -/
def paddedVersion (version : Nat) : String :=
  let digits := toString version
  String.ofList (List.replicate (versionDigits - digits.length) '0') ++ digits

def migrationHead : Lines :=
  ["//! Schema migrations. Generated by rowgen; do not edit.", "",
    "#[derive(Debug, Clone, Copy, PartialEq, Eq)]"] ++
  Lines.block "pub struct Migration" [
    "pub version: u32,",
    "pub file_name: &'static str,",
    "/// SHA-256 of the migration file, to detect edits after release.",
    "pub checksum: &'static str,",
    "pub statements: &'static [&'static str],"] ++ [""]

def statementsLines (m : Migration) : Lines :=
  s!"const MIGRATION_{paddedVersion m.version}: &[&str] = &[" ::
    Lines.indent (m.statements.map fun s => RawString.encode s ++ ",") ++ ["];", ""]

def entryLine (m : Migration) : String :=
  Lines.inline "Migration" (s!"version: {m.version}, file_name: \"{m.fileName}\", " ++
    s!"checksum: \"{m.checksum}\", statements: MIGRATION_{paddedVersion m.version}") ++ ","

def runLines (m : Migration) : Lines :=
  let version := paddedVersion m.version
  m.description.toList.map ("/// " ++ ·) ++
  Lines.block (s!"pub fn migration_{version}<E>" ++
      "(execute: &mut impl FnMut(&str) -> Result<(), E>) -> Result<(), E>")
    (Lines.block s!"for &statement in MIGRATION_{version}" ["execute(statement)?;"] ++
      ["Ok(())"]) ++ [""]

def stepLines (m : Migration) : Lines :=
  Lines.block s!"if current < {m.version}"
    [s!"migration_{paddedVersion m.version}(&mut execute)?;"]

def migrationsText (set : MigrationSet) : String :=
  let all := set.migrations
  let execute := if all.isEmpty then "_execute" else "mut execute"
  Lines.text (
    migrationHead ++
    [s!"pub const LATEST_VERSION: u32 = {set.latest?.getD 0};", ""] ++
    all.flatMap statementsLines ++
    ("pub const MIGRATIONS: &[Migration] = &[" :: Lines.indent (all.map entryLine)) ++
    ["];", ""] ++
    all.flatMap runLines ++
    ["/// Apply every migration newer than `current` in version order and",
      "/// return the resulting version."] ++
    Lines.block (s!"pub fn migrate<E>(current: u32, {execute}: " ++
        "impl FnMut(&str) -> Result<(), E>) -> Result<u32, E>")
      (all.flatMap stepLines ++ ["Ok(current.max(LATEST_VERSION))"]))

end TypedRows.Emit
