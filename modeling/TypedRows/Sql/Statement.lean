import TypedRows.Sql.Tree.Print
import TypedRows.Sql.Tree.Visit
import TypedRows.Text.Fold

/-!
Statements: the kinds that are analysed, and what is kept of the others.
-/

namespace TypedRows.Sql

inductive ColumnOption where
  | notNull
  | primaryKey
  | default (value : Expr)
  | other

/-- A column of `CREATE TABLE` as written. -/
structure ColumnSyntax where
  name : String
  type : Option String
  options : List ColumnOption

/-- `CREATE TABLE` as written. -/
structure TableSyntax where
  name : String
  columns : List ColumnSyntax
  /-- The columns of each primary key that is declared apart from a column. -/
  primaryKeys : List (List String)
  withoutRowid : Bool
  /-- Whether the rows are those of a query. -/
  fromQuery : Bool

structure ColumnDecl where
  name : String
  type : Option String
  notNull : Bool
  primaryKey : Bool
  default : Option String
  deriving DecidableEq

structure TableDecl where
  name : String
  columns : List ColumnDecl
  withoutRowid : Bool
  deriving DecidableEq

structure ViewDecl where
  name : String
  /-- The column names after the view name, if any. -/
  columns : List String
  query : Query

/-- The table that a statement changes, and the name by which it is referred to. -/
structure Changed where
  table : String
  aliasName : Option String
  deriving DecidableEq

inductive Statement where
  | createTable (decl : TableDecl)
  | createView (decl : ViewDecl)
  | select (query : Query)
  | insert (ctes : List Cte) (insert : Insert)
  | update (ctes : List Cte) (changed : Changed) (update : Update)
  | delete (changed : Changed) (condition : Option Expr) (returning : List Item)
  /-- A statement that is passed through: an index, a trigger, a pragma. -/
  | other (keyword : String)

def isIntegerType (type : Option String) : Bool :=
  match type with
  | some t => Text.contains (Text.foldUpper t) "INT"
  | none => false

namespace ColumnDecl

/-- A primary key of one integer column stands for the row number, which is never null. -/
def makeKey (sole : Bool) (column : ColumnDecl) : ColumnDecl :=
  { column with
    primaryKey := true
    notNull := column.notNull || (sole && isIntegerType column.type) }

def applyOption (column : ColumnDecl) (option : ColumnOption) : ColumnDecl :=
  match option with
  | .notNull => { column with notNull := true }
  | .primaryKey => { column with primaryKey := true }
  | .default value => { column with default := some value.print }
  | .other => column

def ofSyntax (column : ColumnSyntax) : ColumnDecl :=
  let decl := column.options.foldl applyOption ⟨column.name, column.type, false, false, none⟩
  if decl.primaryKey then decl.makeKey true else decl

/-- Makes the first column of that name a key column. -/
def markKey (sole : Bool) (name : String) : List ColumnDecl → List ColumnDecl
  | [] => []
  | column :: rest =>
    if Text.sameName column.name name then column.makeKey sole :: rest
    else column :: markKey sole name rest

end ColumnDecl

namespace TableDecl

def applyKey (columns : List ColumnDecl) (key : List String) : List ColumnDecl :=
  key.foldl (fun columns name => ColumnDecl.markKey (key.length = 1) name columns) columns

/-- The table that is declared; a table made from the rows of a query is not supported. -/
def ofSyntax? (table : TableSyntax) : Option TableDecl :=
  if table.fromQuery then none
  else some {
    name := table.name
    columns := table.primaryKeys.foldl applyKey (table.columns.map ColumnDecl.ofSyntax)
    withoutRowid := table.withoutRowid }

end TableDecl

/-- A named table; a function whose rows are read counts as one. -/
def Changed.ofFactor? : Factor → Option Changed
  | .table name _ aliased _ => some ⟨name.base, aliased.map fun a => a.name.text⟩
  | .call false name _ _ aliased _ => some ⟨name.base, aliased.map fun a => a.name.text⟩
  | _ => none

namespace Statement

def visits : Statement → List Visit
  | select query => query.visits
  | createView view => view.query.visits
  | insert ctes change => visitsOfCtes ctes ++ change.visits
  | update ctes _ change => visitsOfCtes ctes ++ change.visits
  | delete _ condition returning => visitsOfExprs condition.toList ++ visitsOfItems returning
  | createTable _ | other _ => []

end Statement

end TypedRows.Sql
