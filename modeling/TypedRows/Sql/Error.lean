import TypedRows.Sql.Token.Scan
import TypedRows.Sql.Grammar.Parser

/-!
What can be wrong with SQL text before its names are looked up.
-/

namespace TypedRows.Sql

def Grammar.Failure.message : Grammar.Failure → String
  | unexpected => "unexpected token"
  | tooDeep => "nesting is too deep"

inductive SqlError where
  | scan (fault : ScanError)
  | grammar (failure : Grammar.Failure)
  | noStatement
  | severalStatements (count : Nat)
  | positionalParameter (text : String)
  | notTable (text : String)
  | createTableAs
  deriving DecidableEq

namespace SqlError

def message : SqlError → String
  | scan fault => "failed to tokenize SQL: " ++ fault.message
  | grammar failure => "failed to parse SQL: " ++ failure.message
  | noStatement => "no SQL statement found"
  | severalStatements count => s!"expected one statement but found {count}"
  | positionalParameter text =>
    s!"positional parameter `{text}` is not supported; use a named parameter such as `:value`"
  | notTable text => s!"`{text}` is not a table"
  | createTableAs => "CREATE TABLE ... AS SELECT is not supported"

end SqlError

end TypedRows.Sql
