import TypedRows.Sql.Lexeme

/-!
Cutting the lexemes of a file into statements, and the text of a statement without its comments.
-/

namespace TypedRows.Sql

/-- The lexemes of one statement. -/
abbrev Chunk := List Lexeme

namespace Chunk

/-- What the first words of a statement have shown so far. -/
inductive Lead where
  | start
  /-- `CREATE`, perhaps with `TEMP` or `TEMPORARY`. -/
  | create
  | trigger
  | other
  deriving DecidableEq

/-- The next significant lexeme; `keyword` is its upper-case text if it is an unquoted word. -/
def Lead.step (lead : Lead) (keyword : Option String) : Lead :=
  match lead, keyword with
  | .start, some "CREATE" => .create
  | .create, some "TEMP" | .create, some "TEMPORARY" => .create
  | .create, some "TRIGGER" => .trigger
  | .trigger, _ => .trigger
  | _, _ => .other

/-- How deep the body of a trigger is nested. -/
structure Depth where
  blocks : Nat
  cases : Nat
  deriving DecidableEq

/-- An `END` closes the innermost `CASE`, or else a block. -/
def Depth.step (depth : Depth) (keyword : Option String) : Depth :=
  match keyword with
  | some "BEGIN" => { depth with blocks := depth.blocks + 1 }
  | some "CASE" => { depth with cases := depth.cases + 1 }
  | some "END" =>
    if 0 < depth.cases then { depth with cases := depth.cases - 1 }
    else { depth with blocks := depth.blocks - 1 }
  | _ => depth

def keyword? (lexeme : Lexeme) : Option String :=
  match lexeme.kind with
  | .word text false => some (Text.foldUpper text)
  | _ => none

def hasContent (chunk : Chunk) : Bool := chunk.any fun lexeme => !lexeme.isTrivia

/-- Cuts at the semicolons outside trigger bodies. `acc` is the current statement, last lexeme
first. -/
def splitFrom (acc : List Lexeme) (lead : Lead) (depth : Depth) : List Lexeme → List Chunk
  | [] => [acc.reverse]
  | lexeme :: rest =>
    if lexeme.isTrivia then splitFrom (lexeme :: acc) lead depth rest
    else
      -- only the body of a trigger has semicolons of its own
      let depth := if lead = .trigger then depth.step (keyword? lexeme) else depth
      if lexeme.kind = .semicolon ∧ depth.blocks = 0 then
        acc.reverse :: splitFrom [] .start ⟨0, 0⟩ rest
      else splitFrom (lexeme :: acc) (lead.step (keyword? lexeme)) depth rest

/-- The statements of a file. Comments go with the statement that follows them, and a chunk of
nothing but blanks and comments is dropped. -/
def split (lexemes : List Lexeme) : List Chunk :=
  (splitFrom [] .start ⟨0, 0⟩ lexemes).filter hasContent

/-- The text of the lexemes. A comment leaves a space unless `spaced`: nothing or a blank
precedes it. -/
def charsFrom (spaced : Bool) : List Lexeme → List Char
  | [] => []
  | lexeme :: rest =>
    match lexeme.kind with
    | .comment _ => if spaced then charsFrom true rest else ' ' :: charsFrom true rest
    | _ =>
      let text := lexeme.text.toList
      let spaced := match text.getLast? with
        | some c => Text.isBlank c
        | none => spaced
      text ++ charsFrom spaced rest

/-- The text of a statement without comments. -/
def render (chunk : Chunk) : String :=
  String.ofList (Text.trimChars (charsFrom true chunk))

/-- The text of the lexemes that are unquoted words, in upper case; other lexemes count as empty
words. -/
def words (chunk : Chunk) : List String :=
  (chunk.filter fun lexeme => !lexeme.isTrivia).map fun lexeme => (keyword? lexeme).getD ""

/-- The first word of a statement, with the kind of object for `CREATE`, `DROP` and `ALTER`. -/
def keyword (chunk : Chunk) : String :=
  match chunk.words with
  | [] => ""
  | first :: rest =>
    if ["CREATE", "DROP", "ALTER"].contains first then
      match rest.find? fun w => !(["TEMP", "TEMPORARY", "UNIQUE"].contains w) with
      | some kind => Text.trimEnd (first ++ " " ++ kind)
      | none => first
    else first

/-- The named parameters in source order, or the first positional one. -/
def parameters (chunk : Chunk) : Except String (List String) :=
  match chunk with
  | [] => .ok []
  | lexeme :: rest =>
    match lexeme.kind with
    | .parameter name => (name :: ·) <$> parameters rest
    | .positional text => .error text
    | _ => parameters rest

def commentLines (lexemes : List Lexeme) : List String :=
  lexemes.flatMap fun lexeme =>
    match lexeme.kind with
    | .comment text => Text.lines text
    | _ => []

/-- The comment lines before the first significant lexeme. -/
def leadingComments (chunk : Chunk) : List String :=
  commentLines (chunk.takeWhile Lexeme.isTrivia)

/-- The comment lines after the first significant lexeme. -/
def innerComments (chunk : Chunk) : List String :=
  commentLines (chunk.dropWhile Lexeme.isTrivia)

end Chunk

end TypedRows.Sql
