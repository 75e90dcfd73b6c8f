import TypedRows.Files.FileSystem
import TypedRows.OrderedMap
import TypedRows.Path

/-!
A file system within one directory, as a value.
-/

namespace TypedRows

inductive FileNode where
  | file (bytes : ByteArray)
  | directory

/-- The files and directories below a working directory, each under the names that lead to it. -/
structure FileTree where
  nodes : OrderedMap (List String) FileNode

namespace FileTree

/-- A place in the tree, or beyond it. Nothing is known of what lies beyond. -/
inductive Place where
  | within (names : List String)
  | beyond
  deriving DecidableEq

def node? (tree : FileTree) : Place → Option FileNode
  | .within [] => some .directory
  | .within names => tree.nodes.get? names
  | .beyond => some .directory

def Place.up : Place → Place
  | within [] | beyond => beyond
  | within names => within names.dropLast

def Place.down (place : Place) (name : String) : Option Place :=
  match place with
  | within names => some (within (names ++ [name]))
  | beyond => none

/-- The number of bytes that a name may have. -/
def nameLimit : Nat := 255

/-- The number of bytes that a path must not reach. -/
def pathLimit : Nat := 4096

/-- Follows the parts of a path. All but the last place must be directories. -/
def follow (tree : FileTree) : Place → List String → Except FileFault Place
  | place, [] => .ok place
  | place, part :: rest =>
    match tree.node? place with
    | none => .error .notFound
    | some (.file _) => .error .notDirectory
    | some .directory =>
      if part = "" ∨ part = "." then follow tree place rest
      else if part = ".." then follow tree place.up rest
      else if nameLimit < part.utf8ByteSize then .error .nameTooLong
      else
        match place.down part with
        | some place => follow tree place rest
        | none => .error .notFound

def place (tree : FileTree) (path : String) : Except FileFault Place :=
  if path.isEmpty then .error .notFound
  else if path.toList.contains '\x00' then .error .nulInName
  else if pathLimit ≤ path.utf8ByteSize then .error .nameTooLong
  else follow tree (if Path.isAbsolute path then .beyond else .within []) (Path.parts path)

def find (tree : FileTree) (path : String) : Except FileFault FileNode := do
  match tree.node? (← tree.place path) with
  | some node => return node
  | none => throw .notFound

def kind? (tree : FileTree) (path : String) : Option PathKind :=
  match tree.find path with
  | .ok (.file _) => some .file
  | .ok .directory => some .directory
  | .error _ => none

/-- The last name, if there are names at all and all others are those of `parent`. -/
def childOf? (parent : List String) (names : List String) : Option String :=
  match names.reverse with
  | last :: before => if before.reverse = parent then some last else none
  | [] => none

def names (tree : FileTree) (path : String) : Except FileFault (List String) := do
  match ← tree.find path, ← tree.place path with
  | .file _, _ => throw .notDirectory
  | .directory, .within parent => return tree.nodes.keys.filterMap (childOf? parent)
  | .directory, .beyond => return []

def read (tree : FileTree) (path : String) : Except FileFault String := do
  match ← tree.find path with
  | .directory => throw .isDirectory
  | .file bytes =>
    match String.fromUTF8? bytes with
    | some text => return text
    | none => throw .notUtf8

/-- The path without slashes at its end, unless there is nothing else to it. -/
def trimSlashes (path : String) : String :=
  let trimmed := String.ofList (Text.dropWhileEnd (· == '/') path.toList)
  if trimmed.isEmpty then path else trimmed

/-- A path with a slash at its end is not that of a file. -/
def write (tree : FileTree) (path text : String) : Except FileFault FileTree := do
  let trimmed := trimSlashes path
  let place ← tree.place trimmed
  match tree.node? place, place with
  | some .directory, _ => throw .isDirectory
  | _, .within names =>
    if trimmed ≠ path then throw .isDirectory
    return ⟨tree.nodes.put names (.file text.toUTF8)⟩
  | _, .beyond => throw .notFound

def makeDirectory (tree : FileTree) (path : String) : Except FileFault FileTree := do
  let place ← tree.place (trimSlashes path)
  match tree.node? place, place with
  | none, .within names => return ⟨tree.nodes.put names .directory⟩
  | some _, _ => throw .exists
  | none, .beyond => throw .notFound

/-- Adds a node with the directories above it. -/
def insert (tree : FileTree) (names : List String) (node : FileNode) : FileTree :=
  let above := (List.range names.length).map fun count => (names.take count, FileNode.directory)
  ⟨(tree.nodes.putAllNew (above.filter fun entry => !entry.1.isEmpty)).put names node⟩

def empty : FileTree := ⟨.empty⟩

/-- The files of the tree by path. -/
def files (tree : FileTree) : List (String × ByteArray) :=
  tree.nodes.entries.filterMap fun (names, node) =>
    match node with
    | .file bytes => some (String.intercalate "/" names, bytes)
    | .directory => none

/-- Runs a change; one that fails leaves the tree as it is. -/
def attempt (change : FileTree → Except FileFault FileTree) :
    StateM FileTree (Except FileFault Unit) :=
  modifyGet fun tree =>
    match change tree with
    | .ok after => (.ok (), after)
    | .error fault => (.error fault, tree)

/-- The operations on a tree that is the state. -/
def fileSystem : FileSystem (StateM FileTree) where
  kind? path := return (← get).kind? path
  names path := return (← get).names path
  read path := return (← get).read path
  write path text := attempt fun tree => tree.write path text
  makeDirectory path := attempt fun tree => tree.makeDirectory path

end FileTree

end TypedRows
