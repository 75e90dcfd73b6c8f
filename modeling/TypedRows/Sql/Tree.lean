import TypedRows.Sql.Token

/-!
Syntax trees of queries and of the statements that change data. What no analysis looks into is
kept as a sequence of pieces, from which its text can still be printed.
-/

namespace TypedRows.Sql

/-- A name as written. -/
structure Ident where
  text : String
  quote : Option QuoteMark
  deriving DecidableEq

/-- A name with the qualifiers before it, outermost first. -/
abbrev Path := List Ident

/-- The last part of a path: `main.person` names `person`. -/
def Path.base (path : Path) : String :=
  match path.getLast? with
  | some part => part.text
  | none => ""

/-- A reference name with new names for the columns. -/
structure Alias where
  name : Ident
  columns : List Ident
  deriving DecidableEq

inductive Literal where
  | number (digits : String) (long : Bool)
  | string (value : String)
  | national (value : String)
  /-- A string whose backslash escapes have been decoded. -/
  | escaped (value : String)
  /-- A name in double quotes that stands for a string. -/
  | quotedName (text : String)
  | hex (digits : String)
  | dollar (value : String) (tag : Option String)
  | boolean (value : Bool)
  | null
  /-- A parameter with its marker. -/
  | placeholder (text : String)
  deriving DecidableEq

inductive UnaryOp where
  | not
  | plus
  | minus
  deriving DecidableEq

inductive BinaryOp where
  | equal
  | notEqual
  | less
  | lessEqual
  | greater
  | greaterEqual
  /-- Equality that counts two nulls as equal. -/
  | nullSafeEqual
  | and
  | or
  | add
  | subtract
  | multiply
  | divide
  | modulo
  | concat
  | bitAnd
  | bitOr
  | bitXor
  | arrow
  | longArrow
  /-- An operator of which only the spelling is known. -/
  | named (text : String)
  deriving DecidableEq

/-- What `IS` and `IS NOT` test for. -/
inductive IsTest where
  | null
  | truth
  | falsity
  | unknown
  deriving DecidableEq

inductive MatchOp where
  | like
  | ilike
  | similarTo
  | rlike
  | regexp
  deriving DecidableEq

inductive CastForm where
  | cast
  | tryCast
  | safeCast
  /-- `e::type` -/
  | colons
  deriving DecidableEq

inductive TrimSide where
  | both
  | leading
  | trailing
  deriving DecidableEq

inductive SetOp where
  | union
  | except
  | intersect
  deriving DecidableEq

/-- How an entry of `FROM` is linked to those before it. -/
inductive Link where
  /-- The first entry, or one after a comma. -/
  | comma
  | inner
  | left
  | right
  | full
  | cross
  | leftSemi
  | rightSemi
  | leftAnti
  | rightAnti
  | crossApply
  | outerApply
  | asOf
  deriving DecidableEq

/-- The left side of an assignment. -/
inductive Target where
  | column (path : Path)
  | tuple (paths : List Path)
  deriving DecidableEq

mutual

inductive Expr where
  | column (path : Path)
  | literal (value : Literal)
  | nested (e : Expr)
  | unary (op : UnaryOp) (e : Expr)
  /-- `e!` -/
  | factorial (e : Expr)
  | binary (op : BinaryOp) (left right : Expr)
  | is (test : IsTest) (negated : Bool) (e : Expr)
  | isDistinct (negated : Bool) (left right : Expr)
  | like (op : MatchOp) (negated any : Bool) (e pattern : Expr) (escape : Option String)
  | between (negated : Bool) (e low high : Expr)
  | inList (negated : Bool) (e : Expr) (list : List Expr)
  | inQuery (negated : Bool) (e : Expr) (query : Query)
  | existsRow (negated : Bool) (query : Query)
  | subquery (query : Query)
  | call (call : Call)
  /-- `ARRAY(query)` -/
  | arrayOf (name : Ident) (query : Query)
  | choose (operand : Option Expr) (branches : List Branch) (otherwise : Option Expr)
  /-- The last two parts are the text of the type and what follows it. -/
  | cast (form : CastForm) (e : Expr) (type format : String)
  | collate (e : Expr) (collation : Path)
  | trim (side : Option TrimSide) (what : Option Expr) (e : Expr)
  /-- `commas` tells that a comma precedes the start, and not `FROM`. -/
  | substring (e : Expr) (start count : Option Expr) (commas : Bool)
  | tuple (list : List Expr)
  /-- An expression of a form that is not analysed. -/
  | phrase (pieces : List Piece)

/-- `WHEN condition THEN result` -/
structure Branch where
  condition : Expr
  result : Expr

inductive Piece where
  | text (text : String)
  | expr (e : Expr)
  | query (query : Query)

/-- A call of a function; the parentheses may be missing. -/
structure Call where
  name : Path
  parentheses : Bool
  /-- `DISTINCT` or `ALL`. -/
  treatment : Option String
  arguments : List Item
  /-- What stands in the parentheses after the arguments. -/
  clauses : List Piece
  /-- What stands between the parentheses and the filter. -/
  group : List Piece
  filter : Option Expr
  /-- What follows the filter. -/
  window : List Piece

/-- A column of a result with its alias, or an argument with its label. -/
inductive Item where
  | expr (label : Option Ident) (e : Expr)
  /-- `*` or `path.*` -/
  | star (label : Option Ident) (path : Path)

structure Query where
  recursive : Bool
  ctes : List Cte
  body : Body
  order : List SortKey
  limit : Option Expr
  offset : Option Expr
  /-- What follows the limit and the offset. -/
  rest : List Piece

structure Cte where
  name : Ident
  columns : List Ident
  query : Query
  /-- The name after a final `FROM`. -/
  source : Option Ident

structure SortKey where
  expr : Expr
  direction : String

inductive Body where
  | select (select : Select)
  | query (query : Query)
  | compound (op : SetOp) (quantifier : String) (left right : Body)
  | values (explicitRow : Bool) (rows : List (List Expr))
  | table (path : List String)
  | insert (insert : Insert)
  | update (update : Update)
  /-- The rows of a query go to the files of a directory. -/
  | store (lead : String) (query : Query)

structure Select where
  /-- What stands between `SELECT` and the items. -/
  lead : List Piece
  items : List Item
  into : String
  sources : List Entry
  lateral : List Piece
  condition : Option Expr
  groupByAll : Bool
  groupBy : List Expr
  /-- How the rows are spread and sorted. -/
  spread : List Piece
  having : Option Expr
  /-- The `WINDOW` and `QUALIFY` clauses. -/
  windows : List Piece

structure Entry where
  global : Bool
  link : Link
  factor : Factor
  /-- The condition of `MATCH_CONDITION`. -/
  nearest : Option Expr
  constraint : Constraint

inductive Constraint where
  | none
  | natural
  | condition (e : Expr)
  | columns (names : List Ident)

inductive Factor where
  | table (name : Path) (ordinality : Bool) (aliased : Option Alias) (hints : List Expr)
  /-- A function whose rows are read. -/
  | call (lateral : Bool) (name : Path) (arguments : List Item) (ordinality : Bool)
      (aliased : Option Alias) (hints : List Expr)
  | derived (lateral : Bool) (query : Query) (aliased : Option Alias)
  /-- A factor and what is joined to it, in parentheses. -/
  | nested (first : Factor) (joins : List Entry) (aliased : Option Alias)
  | tableOf (e : Expr) (aliased : Option Alias)
  /-- `PIVOT` or `UNPIVOT` with what it applies to. -/
  | pivot (factor : Factor) (pieces : List Piece)
  | phrase (pieces : List Piece)

structure Insert where
  /-- The words before the table name. -/
  lead : String
  table : Path
  columns : List Ident
  partition : List Piece
  /-- None for `DEFAULT VALUES`. -/
  source : Option Query
  conflict : Conflict
  returning : List Item

inductive Conflict where
  | none
  | nothing (target : String)
  | update (target : String) (assignments : List Assignment) (condition : Option Expr)
  | duplicateKey (assignments : List Assignment)

structure Update where
  /-- The table to change with what is joined to it. -/
  table : List Entry
  assignments : List Assignment
  sources : List Entry
  condition : Option Expr
  returning : List Item

structure Assignment where
  target : Target
  value : Expr

end

end TypedRows.Sql
