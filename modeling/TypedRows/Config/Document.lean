import TypedRows.Config.Moment
import TypedRows.Config.Value

/-!
A configuration file in TOML: tables under headers, with keys that may have dots.
-/

namespace TypedRows.Config

/-- How a table came to be. -/
inductive TableOrigin where
  /-- As the parent of a table under a header. -/
  | parent
  /-- By a key with dots. -/
  | dotted
  | header
  deriving DecidableEq

mutual

/-- A value, or a table that is still open. -/
inductive Node where
  | value (value : ConfigValue)
  | table (origin : TableOrigin) (members : List NodeEntry)
  /-- The tables under one repeated header. -/
  | tables (list : List (List NodeEntry))

structure NodeEntry where
  key : String
  node : Node

end

mutual

def Node.close : Node → ConfigValue
  | .value value => value
  | .table _ members => .table (closeMembers members)
  | .tables list => .list (closeTables list)

def NodeEntry.close : NodeEntry → ConfigEntry
  | ⟨key, node⟩ => ⟨key, node.close⟩

def closeMembers : List NodeEntry → List ConfigEntry
  | [] => []
  | entry :: rest => entry.close :: closeMembers rest

def closeTables : List (List NodeEntry) → List ConfigValue
  | [] => []
  | members :: rest => .table (closeMembers members) :: closeTables rest

end

abbrev Members := List NodeEntry

namespace Members

def find? (members : Members) (key : String) : Option Node :=
  (List.find? (fun entry => entry.key == key) members).map NodeEntry.node

/-- Sets the node of a key; a new key comes last. -/
def put (key : String) (node : Node) : Members → Members
  | [] => [⟨key, node⟩]
  | entry :: rest =>
    if entry.key = key then ⟨key, node⟩ :: rest else entry :: put key node rest

def putNew (members : Members) (key : String) (node : Node) : Option Members :=
  if (members.find? key).isSome then none else some (members ++ [⟨key, node⟩])

/-- Changes the table at a path of headers. Missing tables are made, and of repeated tables the
last one is meant. -/
def change (f : Members → Option Members) : List String → Members → Option Members
  | [], members => f members
  | key :: path, members =>
    match members.find? key with
    | none => (change f path []).map fun sub => members.put key (.table .parent sub)
    | some (.table origin sub) =>
      (change f path sub).map fun sub => members.put key (.table origin sub)
    | some (.tables list) =>
      match list.reverse with
      | last :: before =>
        (change f path last).map fun last =>
          members.put key (.tables (before.reverse ++ [last]))
      | [] => none
    | some (.value _) => none

/-- Sets a value under a key with dots. Only tables that such keys have made may get it. -/
def putDotted (value : ConfigValue) : List String → String → Members → Option Members
  | [], key, members => members.putNew key (.value value)
  | part :: path, key, members =>
    let inner := fun (open' : Bool) (sub : Members) =>
      if path.isEmpty && !open' then none else putDotted value path key sub
    match members.find? part with
    | none => (inner true []).map fun sub => members.put part (.table .dotted sub)
    | some (.table .dotted sub) =>
      (inner true sub).map fun sub => members.put part (.table .dotted sub)
    -- a parent that a header has made gets no value itself, but longer keys lead through it
    | some (.table .parent sub) =>
      (inner false sub).map fun sub => members.put part (.table .parent sub)
    | some (.tables list) =>
      match list.reverse with
      | last :: before =>
        (inner false last).map fun last =>
          members.put part (.tables (before.reverse ++ [last]))
      | [] => none
    | some (.table .header _) | some (.value _) => none

/-- Opens the table under a header. Only one that was made as a parent may exist. -/
def openTable (key : String) (members : Members) : Option Members :=
  match members.find? key with
  | none => members.putNew key (.table .header [])
  | some (.table .parent sub) => some (members.put key (.table .header sub))
  | some _ => none

/-- Opens one more table under a repeated header. -/
def openNext (key : String) (members : Members) : Option Members :=
  match members.find? key with
  | none => members.putNew key (.tables [[]])
  | some (.tables list) => some (members.put key (.tables (list ++ [[]])))
  | some _ => none

end Members

/-- Skips blanks, comments and newlines. `fuel` bounds the number of lines. -/
def skipLines : Nat → List Char → List Char
  | 0, cs => cs
  | fuel + 1, cs =>
    let rest := skipComment (skipSpaces cs)
    match afterNewline? rest with
    | some rest => skipLines fuel rest
    | none => rest

def skipAll (cs : List Char) : List Char := skipLines cs.length cs

/-- The items of an array after its opening bracket. -/
def arrayItems (item : Reader ConfigValue) : Nat → List Char →
    Option (List ConfigValue × List Char)
  | 0, _ => none
  | fuel + 1, cs =>
    match skipAll cs with
    | ']' :: rest => some ([], rest)
    | start => do
      let (value, rest) ← item start
      match skipAll rest with
      | ',' :: rest =>
        let (values, rest) ← arrayItems item fuel rest
        return (value :: values, rest)
      | ']' :: rest => return ([value], rest)
      | _ => none

/-- A key, an equals sign and a value. -/
def pair? (item : Reader ConfigValue) (cs : List Char) :
    Option ((List String × ConfigValue) × List Char) := do
  let (path, rest) ← key? cs
  match rest with
  | '=' :: rest =>
    let (value, rest) ← item (skipSpaces rest)
    return ((path, value), rest)
  | _ => none

def addPair (members : Members) (path : List String) (value : ConfigValue) : Option Members :=
  match path.reverse with
  | key :: before => members.putDotted value before.reverse key
  | [] => none

/-- The pairs of a table in braces, from its first pair on. -/
def inlinePairs (item : Reader ConfigValue) : Nat → Members → List Char →
    Option (Members × List Char)
  | 0, _, _ => none
  | fuel + 1, members, cs => do
    let ((path, value), rest) ← pair? item (skipSpaces cs)
    let members ← addPair members path value
    match skipSpaces rest with
    | ',' :: rest => inlinePairs item fuel members rest
    | '\x7d' :: rest => return (members, rest)
    | _ => none

def isScalarChar (c : Char) : Bool :=
  c.isAlphanum || ['_', '+', '-', '.', ':'].contains c

/-- The characters of a scalar. A space may stand between a date and a time. -/
def scalarRun (cs : List Char) : List Char :=
  let run := cs.takeWhile isScalarChar
  match cs.drop run.length with
  | ' ' :: c :: rest =>
    if c.isDigit && afterDate? run == some [] then
      run ++ ' ' :: (c :: rest).takeWhile isScalarChar
    else run
  | _ => run

def scalar? (run : List Char) : Option ConfigValue :=
  match moment? run with
  | some text => some (.moment (String.ofList text))
  | none =>
    if run == "true".toList || run == "false".toList || isInteger run || isFloat run then
      some .plain
    else none

/-- Reads a value of which the lists and tables have fewer than `depth` levels. -/
def value? : Nat → Reader ConfigValue
  | 0, _ => none
  | depth + 1, cs =>
    match cs with
    | '[' :: rest =>
      if depth = 0 then none
      else
        (arrayItems (value? depth) cs.length rest).map fun (items, rest) => (.list items, rest)
    | '\x7b' :: rest =>
      if depth = 0 then none
      else
        match skipSpaces rest with
        | '\x7d' :: rest => some (.table [], rest)
        | start =>
          (inlinePairs (value? depth) cs.length [] start).map fun (members, rest) =>
            (.table (closeMembers members), rest)
    | '"' :: _ | '\'' :: _ => (string? cs).map fun (text, rest) => (.text text, rest)
    | _ =>
      let run := scalarRun cs
      (scalar? run).map fun value => (value, cs.drop run.length)

/-- Where the pairs that follow go. -/
structure Document where
  root : Members
  current : List String

namespace Document

/-- Reads the header of a table after its first bracket. -/
def header? (document : Document) (cs : List Char) : Option (Document × List Char) := do
  let (repeated, start) := match cs with
    | '[' :: rest => (true, rest)
    | _ => (false, cs)
  let (path, rest) ← key? start
  let rest ← match repeated, rest with
    | true, ']' :: ']' :: rest => some rest
    | false, ']' :: rest => some rest
    | _, _ => none
  match path.reverse with
  | [] => none
  | key :: before =>
    let enter := if repeated then Members.openNext key else Members.openTable key
    let root ← Members.change enter before.reverse document.root
    return (⟨root, path⟩, rest)

/-- Reads a header or a pair, if there is one on the line. -/
def line? (document : Document) (cs : List Char) : Option (Document × List Char) :=
  match cs with
  | [] => some (document, [])
  | '[' :: rest => document.header? rest
  | c :: _ =>
    if c = '#' ∨ c = '\n' ∨ c = '\r' then some (document, cs)
    else do
      let ((path, value), rest) ← pair? (value? nestingLimit) cs
      let root ← Members.change (fun members => addPair members path value)
        document.current document.root
      return ({ document with root }, rest)

/-- Reads line after line. `fuel` bounds their number. -/
def lines? : Nat → Document → List Char → Option Document
  | 0, _, _ => none
  | fuel + 1, document, cs => do
    let (document, rest) ← document.line? (skipSpaces cs)
    match skipComment (skipSpaces rest) with
    | [] => return document
    | rest => lines? fuel document (← afterNewline? rest)

/-- The entries of a file. A byte order mark in front does not count. -/
def parse? (text : String) : Option (List ConfigEntry) :=
  let cs := match text.toList with
    | '\uFEFF' :: rest => rest
    | cs => cs
  (lines? (cs.length + 1) ⟨[], []⟩ cs).map fun document => closeMembers document.root

end Document

end TypedRows.Config
