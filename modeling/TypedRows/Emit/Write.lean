import TypedRows.Config.Settings
import TypedRows.Emit.Files
import TypedRows.Files.Failure

/-!
Writing the generated files.
-/

namespace TypedRows

variable {m : Type → Type} [Monad m]

namespace FileSystem

/-- A fault does not matter if there is a directory all the same. -/
def unlessDirectory (fs : FileSystem m) (path : String) (fault : FileFault) :
    m (Except FileFault Unit) := do
  if (← fs.kind? path) == some .directory then return .ok () else return .error fault

/-- Makes a directory with all that lead to it. `fuel` bounds their number. -/
def makeAll (fs : FileSystem m) : Nat → String → m (Except FileFault Unit)
  | 0, _ => return .error .notFound
  | fuel + 1, path => do
    if path.isEmpty then return .ok ()
    match ← fs.makeDirectory path with
    | .ok () => return .ok ()
    -- the directory above is made first, and then this one is tried once more
    | .error .notFound =>
      match Path.parent? path with
      | none => return .error (.other "failed to create whole tree")
      | some parent =>
        match ← makeAll fs fuel parent with
        | .error fault => return .error fault
        | .ok () =>
          match ← fs.makeDirectory path with
          | .ok () => return .ok ()
          | .error fault => fs.unlessDirectory path fault
    | .error fault => fs.unlessDirectory path fault

end FileSystem

namespace Emit

def writeFile (fs : FileSystem m) (dir : String) (file : GeneratedFile) : Attempt m String := do
  let path := Path.join dir file.path
  Attempt.ofFile (some s!"failed to write {path}") (fs.write path file.text)
  return path

/-- Writes the generated module into `out`, or else into the directory of the settings, and gives
the paths of its files. -/
def writeProject (fs : FileSystem m) (project : Project) (settings : Settings)
    (out : Option String) : Attempt m (List String) := do
  let dir := Path.join (out.getD settings.outputPath) settings.moduleName
  Attempt.ofFile (some s!"failed to create {dir}") (fs.makeAll (dir.length + 1) dir)
  (files project).mapM (writeFile fs dir)

end Emit

end TypedRows
