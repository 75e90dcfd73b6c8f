/-!
What is needed of a file system, and the ways in which it can fail.
-/

namespace TypedRows

inductive FileFault where
  | notFound
  | notDirectory
  | isDirectory
  | exists
  | nameTooLong
  | nulInName
  | notUtf8
  /-- Any other fault, with its text. -/
  | other (text : String)
  deriving DecidableEq

def FileFault.message : FileFault → String
  | notFound => "No such file or directory (os error 2)"
  | notDirectory => "Not a directory (os error 20)"
  | isDirectory => "Is a directory (os error 21)"
  | «exists» => "File exists (os error 17)"
  | nameTooLong => "File name too long (os error 36)"
  | nulInName => "file name contained an unexpected NUL byte"
  | notUtf8 => "stream did not contain valid UTF-8"
  | other text => text

inductive PathKind where
  | file
  | directory
  deriving DecidableEq

/-- The operations of a file system, in some monad. -/
structure FileSystem (m : Type → Type) where
  /-- What is at a path, if anything. -/
  kind? : String → m (Option PathKind)
  /-- The names in a directory, in any order. -/
  names : String → m (Except FileFault (List String))
  read : String → m (Except FileFault String)
  write : String → String → m (Except FileFault Unit)
  /-- Makes a directory in one that exists. -/
  makeDirectory : String → m (Except FileFault Unit)

end TypedRows
