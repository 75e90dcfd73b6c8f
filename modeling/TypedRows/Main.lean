import TypedRows.Command.Run

/-!
The command line program, on the files of the machine.
-/

namespace TypedRows

namespace Machine

def faultOf (error : IO.Error) : FileFault :=
  match error with
  | .noFileOrDirectory _ 20 _ => .notDirectory
  | .noFileOrDirectory _ _ _ => .notFound
  | .inappropriateType _ 20 _ => .notDirectory
  | .inappropriateType _ 21 _ => .isDirectory
  | .alreadyExists _ _ _ => .exists
  | error => .other (toString error)

def attempt {α : Type} (step : IO α) : IO (Except FileFault α) := do
  try
    return .ok (← step)
  catch error =>
    return .error (faultOf error)

/-- A path as the directory that an entry lies in. -/
def entryOf (path : String) : IO.FS.DirEntry where
  root := path
  fileName := ""

def kind? (path : String) : IO (Option PathKind) := do
  try
    let data ← (entryOf path).root.metadata
    return some (if data.type == .dir then .directory else .file)
  catch _ =>
    return none

def names (path : String) : IO (List String) := do
  let entries ← (entryOf path).root.readDir
  return entries.toList.map fun entry => entry.fileName

def read (path : String) : IO (Except FileFault String) := do
  match ← attempt (IO.FS.readBinFile path) with
  | .error fault => return .error fault
  | .ok bytes =>
    match String.fromUTF8? bytes with
    | some text => return .ok text
    | none => return .error .notUtf8

def fileSystem : FileSystem IO where
  kind? := kind?
  names path := attempt (names path)
  read := read
  write path text := attempt (IO.FS.writeFile path text)
  makeDirectory path := attempt (IO.FS.createDir path)

end Machine

end TypedRows

def main (arguments : List String) : IO UInt32 := do
  let outcome ← TypedRows.Command.run TypedRows.Machine.fileSystem arguments
  IO.print outcome.output
  IO.eprint outcome.errors
  return outcome.code
