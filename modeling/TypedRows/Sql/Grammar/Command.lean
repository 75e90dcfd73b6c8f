import TypedRows.Sql.Grammar.Session

/-!
Whole statements.
-/

namespace TypedRows.Sql.Grammar

inductive Command where
  /-- A query, or a statement that changes data. -/
  | query (query : Query)
  /-- The first entry to delete from. -/
  | delete (first : Factor) (condition : Option Expr) (returning : List Item)
  | createTable (table : TableSyntax)
  | createView (view : ViewDecl)
  /-- A request for the plan of a statement or for the columns of a table. -/
  | explain
  /-- A statement of which only the kind is known. -/
  | other

section

variable (sub : Nested) (statement : Parser Command)

def create : Parser Command := do
  let replacing ← takeKeywords ["OR", "REPLACE"]
  skipKeywords ["OR", "ALTER"]
  skipKeyword "LOCAL"
  skipKeyword "GLOBAL"
  skipKeyword "TRANSIENT"
  discard (takeOneOf ["TEMP", "TEMPORARY"])
  if ← takeKeyword "TABLE" then return .createTable (← createTable sub)
  if ← takeAny [["MATERIALIZED", "VIEW"], ["VIEW"]] then return .createView (← createView sub)
  if ← takeKeyword "EXTERNAL" then
    expectKeyword "TABLE"
    return .createTable (← createExternalTable sub)
  if ← takeKeyword "POLICY" then createPolicy sub
  else if ← takeKeyword "SECRET" then createSecret
  else if replacing then unexpected
  else if ← takeKeyword "EXTENSION" then createExtension
  else if ← takeAny [["INDEX"], ["UNIQUE", "INDEX"]] then createIndex sub
  else
    match ← expectOneOf ["VIRTUAL", "SCHEMA", "DATABASE", "ROLE", "SEQUENCE", "TYPE",
        "PROCEDURE"] with
    | "VIRTUAL" => createVirtualTable
    | "SCHEMA" => createSchema
    | "DATABASE" => createDatabase
    | "ROLE" => createRole
    | "SEQUENCE" => createSequence
    | "TYPE" => createType
    | _ => createProcedure statement
  return .other

def delete : Parser Command := do
  unless ← takeKeyword "FROM" do
    paths
    expectKeyword "FROM"
  let entries ← sources sub
  skipClause ["USING"] (sources sub)
  let condition ← condition sub
  let returning ← returning sub
  skipClause ["ORDER", "BY"] (separated (sortKey sub))
  skipClause ["LIMIT"] do
    unless ← takeKeyword "ALL" do discard (expression sub)
  match entries with
  | ⟨_, _, first, _, _⟩ :: _ => return .delete first condition returning
  | [] => unexpected

/-- `EXPLAIN` and its like, after the word. -/
def explain : Parser Command := do
  unless ← takeKeywords ["QUERY", "PLAN"] do
    skipKeyword "ANALYZE"
    skipKeyword "VERBOSE"
    skipClause ["FORMAT"] (expectOneOf ["TEXT", "JSON", "GRAPHVIZ"])
  match ← attempt statement with
  | some .explain => unexpected
  | some _ => return .explain
  | none =>
    discard (takeOneOf ["EXTENDED", "FORMATTED"])
    discard path
    return .explain

def prepare : Parser Unit := do
  discard identifier
  if ← atMark "(" then discard (inParens (separated typeName))
  expectKeyword "AS"
  discard statement

/-- The parser for what follows the first word of a statement of which only the kind is kept. -/
def otherCommand (word : String) : Parser Unit :=
  match word with
  | "KILL" => kill
  | "ANALYZE" => analyze sub
  | "TRUNCATE" => truncate sub
  | "ATTACH" => attach sub
  | "MSCK" => repairTable
  | "CACHE" => cacheTable sub
  | "DROP" => drop sub
  | "DISCARD" => discard (expectOneOf ["ALL", "PLANS", "SEQUENCES", "TEMP", "TEMPORARY"])
  | "DECLARE" => declareCursor sub
  | "FETCH" => fetchRows
  | "UNCACHE" => uncacheTable
  | "ALTER" => alter sub
  | "CALL" => callProcedure sub
  | "COPY" => copy sub
  | "CLOSE" => closeCursor
  | "SET" => setting sub
  | "SHOW" => showObjects sub
  | "USE" => discard path
  | "GRANT" => grant
  | "REVOKE" => revoke
  | "START" => do
    expectKeyword "TRANSACTION"
    transactionModes
  | "BEGIN" => beginTransaction
  | "END" | "COMMIT" => endTransaction
  | "ROLLBACK" => rollback
  | "SAVEPOINT" => discard identifier
  | "RELEASE" => do
    skipKeyword "SAVEPOINT"
    discard identifier
  | "ASSERT" => assertion sub
  | "DEALLOCATE" => do
    skipKeyword "PREPARE"
    discard identifier
  | "EXECUTE" | "EXEC" => execute sub
  | "PREPARE" => prepare statement
  | "MERGE" => merge sub
  | "PRAGMA" => pragma
  | "UNLOAD" => unload sub
  | _ => unexpected

def command : Parser Command := do
  let word ← peekKeyword
  if ["SELECT", "WITH", "VALUES"].contains word then return .query (← sub.query)
  if ← atMark "(" then return .query (← sub.query)
  if word = "REPLACE" then return .query (ofChange false [] (← insert sub))
  discard next
  match word with
  | "INSERT" => return .query (ofChange false [] (← insert sub))
  | "UPDATE" => return .query (ofChange false [] (.update (← update sub)))
  | "DELETE" => delete sub
  | "CREATE" => create sub statement
  | "EXPLAIN" | "DESCRIBE" | "DESC" => explain statement
  | _ =>
    otherCommand sub statement word
    return .other

end

/-- A command that may have `depth` levels of commands, queries and expressions. -/
def commandAt : Nat → Parser Command
  | 0 => throw .tooDeep
  | depth + 1 => command (level depth) (commandAt depth)

def nestingLimit : Nat := 50

def commands (tokens : List Token) : Except Failure (List Command) :=
  let symbols := (tokens.filter fun token => !token.isTrivia).map Symbol.ofToken
  (statements (commandAt nestingLimit)).run' symbols

end TypedRows.Sql.Grammar
