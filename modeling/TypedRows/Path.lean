import TypedRows.Text.Blank

/-!
Paths as they are written, with `/` between the names.
-/

namespace TypedRows.Path

def isAbsolute (path : String) : Bool := path.toList.head? == some '/'

/-- A path within another one. An absolute path stands for itself. -/
def join (dir path : String) : String :=
  if isAbsolute path || dir.isEmpty then path
  else if dir.toList.getLast? == some '/' then dir ++ path
  else dir ++ "/" ++ path

/-- The parts between the slashes. An empty part or a dot leads nowhere. -/
def parts (path : String) : List String := Text.split '/' path

def isStep (part : String) : Bool := !part.isEmpty && part != "."

/-- The last name of a path, unless it leads up. -/
def fileName? (path : String) : Option String :=
  match ((parts path).filter isStep).getLast? with
  | some ".." => none
  | last => last

/-- A file name cut at its last dot. A dot in front does not count. -/
def splitName (name : String) : String × Option String :=
  let (after, before) := name.toList.reverse.span (· ≠ '.')
  match before with
  | _ :: stem =>
    if stem.isEmpty || name == ".." then (name, none)
    else (String.ofList stem.reverse, some (String.ofList after.reverse))
  | [] => (name, none)

def extension? (path : String) : Option String :=
  (fileName? path).bind fun name => (splitName name).2

def stem? (path : String) : Option String :=
  (fileName? path).map fun name => (splitName name).1

/-- Drops slashes and dots that lead nowhere from the end. `rest` is a path from its end. -/
def trimBack : List Char → List Char
  | '/' :: rest => if rest.isEmpty then ['/'] else trimBack rest
  | '.' :: '/' :: rest => trimBack ('/' :: rest)
  | rest => rest

/-- The directory that a path lies in; a path without a name has none. -/
def parent? (path : String) : Option String :=
  match trimBack path.toList.reverse with
  | [] | ['/'] => none
  | back => some (String.ofList (trimBack (back.dropWhile (· ≠ '/'))).reverse)

end TypedRows.Path
