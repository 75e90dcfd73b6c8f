import TypedRows.Sql.Chunk
import TypedRows.Sql.Error
import TypedRows.Sql.Grammar.Command

/-!
Scripts: statements with the comments around them and the parameters in them.
-/

namespace TypedRows.Sql

structure ScriptItem where
  /-- The text without comments and without the final semicolon. -/
  sql : String
  statement : Statement
  /-- The comment lines before the first word. -/
  leadingComments : List String
  innerComments : List String
  /-- The named parameters in source order, with repetitions. -/
  parameters : List String

namespace ScriptItem

def comments (item : ScriptItem) : List String :=
  item.leadingComments ++ item.innerComments

/-- Statements whose structure is needed. Others are kept even if they cannot be parsed. -/
def analysedKeywords : List String :=
  ["SELECT", "VALUES", "WITH", "INSERT", "REPLACE", "UPDATE", "DELETE", "CREATE TABLE",
    "CREATE VIEW"]

def changed (factor : Factor) : Except SqlError Changed :=
  match Changed.ofFactor? factor with
  | some changed => .ok changed
  | none => .error (.notTable factor.print)

def ofUpdate (ctes : List Cte) (update : Update) : Except SqlError Statement :=
  match update.table with
  | ⟨_, _, factor, _, _⟩ :: _ => do return .update ctes (← changed factor) update
  | [] => .error (.notTable "")

def ofCommand (keyword : String) : Grammar.Command → Except SqlError Statement
  | .query ⟨_, ctes, .insert insert, _, _, _, _⟩ => .ok (.insert ctes insert)
  | .query ⟨_, ctes, .update update, _, _, _, _⟩ => ofUpdate ctes update
  | .query ⟨_, _, .store _ _, _, _, _, _⟩ => .ok (.other keyword)
  | .query query => .ok (.select query)
  | .delete first condition returning => do return .delete (← changed first) condition returning
  | .createTable table =>
    match TableDecl.ofSyntax? table with
    | some decl => .ok (.createTable decl)
    | none => .error .createTableAs
  | .createView view => .ok (.createView view)
  | .explain | .other => .ok (.other keyword)

def commands (sql : String) : Except SqlError (List Grammar.Command) :=
  match Token.scan sql with
  | .error _ => .error (.grammar .unexpected)
  | .ok tokens =>
    match Grammar.commands tokens with
    | .error failure => .error (.grammar failure)
    | .ok commands => .ok commands

def statementOf (sql keyword : String) : Except SqlError Statement :=
  match commands sql with
  | .ok [command] => ofCommand keyword command
  | .ok commands => .error (.severalStatements commands.length)
  | .error e => if analysedKeywords.contains keyword then .error e else .ok (.other keyword)

def ofChunk (chunk : Chunk) : Except SqlError ScriptItem := do
  let parameters ← chunk.parameters.mapError .positionalParameter
  let sql := chunk.render
  return {
    sql
    statement := ← statementOf sql chunk.keyword
    leadingComments := chunk.leadingComments
    innerComments := chunk.innerComments
    parameters }

end ScriptItem

namespace Script

def chunks (text : String) : Except SqlError (List Chunk) :=
  match Lexeme.scan text with
  | .ok lexemes => .ok (Chunk.split lexemes)
  | .error fault => .error (.scan fault)

/-- The only statement of a text. -/
def single (text : String) : Except SqlError ScriptItem := do
  match ← chunks text with
  | [] => .error .noStatement
  | [chunk] => ScriptItem.ofChunk chunk
  | chunks => .error (.severalStatements chunks.length)

def parse (text : String) : Except SqlError (List ScriptItem) := do
  (← chunks text).mapM ScriptItem.ofChunk

end Script

end TypedRows.Sql
