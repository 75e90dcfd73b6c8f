import TypedRows.Schema.Catalog
import TypedRows.Schema.Error
import TypedRows.Schema.ExprType
import TypedRows.Sql.Parameter

/-!
The sources of a `SELECT`: what stands in its `FROM`, from left to right, with the names by which
columns are found in it.
-/

namespace TypedRows

open Sql

/-- Which rows of a join are kept where the other side has none. -/
inductive Side where
  | inner
  | left
  | right
  | full
  deriving DecidableEq

def Sql.Link.side : Link → Side
  | .left | .outerApply => .left
  | .right => .right
  | .full => .full
  | _ => .inner

structure Source where
  reference : Option String
  /-- The table or view that is read by name. -/
  object : Option String
  columns : List ResultColumn
  /-- The columns joined with equal ones of earlier sources. -/
  joinedColumns : List String
  /-- Whether the columns keep their origins: a subquery or a common table expression. -/
  transparent : Bool
  /-- Whether the columns are unknown: a function. -/
  hidden : Bool
  nullable : Bool

/-- Common table expressions, the innermost first. -/
abbrev Ctes := List (String × List ResultColumn)

structure Scope where
  catalog : Catalog
  ctes : Ctes
  sources : List Source

namespace Source

/-- A source before it is joined. -/
def unjoined (reference object : Option String) (columns : List ResultColumn)
    (transparent hidden : Bool) : Source where
  reference
  object
  columns
  joinedColumns := []
  transparent
  hidden
  nullable := false

/-- The names that the constraint of a join makes equal. -/
def equated (sources : List Source) (columns : List ResultColumn) : Constraint → List String
  | .columns names => names.map Ident.text
  | .natural =>
    (columns.filter fun c => sources.any fun s => s.columns.any fun p =>
      Text.sameName p.name c.name).map ResultColumn.name
  | .none | .condition _ => []

def join (sources : List Source) (side : Side) (constraint : Constraint) (source : Source) :
    List Source :=
  -- the sources before may be left without a row as a whole
  let before :=
    if side = .right ∨ side = .full then sources.map fun s => { s with nullable := true }
    else sources
  before ++ [{
    source with
    joinedColumns := equated sources source.columns constraint
    nullable := side = .left ∨ side = .full }]

/-- The column as it is seen through the source. -/
def seen (source : Source) (column : ResultColumn) : ResultColumn := {
  column with
  tableAlias := source.reference
  aliasPath := source.reference.toList ++ column.aliasPath
  -- the joins within a view are not told to those who read it, the joins within a subquery are
  joinedNullable := source.nullable || (source.transparent && column.joinedNullable)
  notNull := column.notNull && !source.nullable }

def finish (source : Source) : Source :=
  { source with columns := source.columns.map source.seen }

def hasName (source : Source) (reference : String) : Bool :=
  match source.reference with
  | some r => Text.sameName r reference
  | none => false

/-- The columns that `*` stands for: those joined with earlier ones are left out. -/
def starColumns (source : Source) : List ResultColumn :=
  source.columns.filter fun c => !source.joinedColumns.any fun u => Text.sameName u c.name

def column? (source : Source) (name : String) : Option ResultColumn :=
  source.columns.find? fun c => Text.sameName c.name name

end Source

def rowidNames : List String := ["rowid", "oid", "_rowid_"]

namespace Scope

def source? (scope : Scope) (reference : String) : Option Source :=
  scope.sources.find? fun s => s.hasName reference

/-- The row number of a table that has one. -/
def rowid? (scope : Scope) (source : Source) (name : String) : Option ResultColumn :=
  if rowidNames.any fun r => Text.sameName r name then
    match source.object.bind scope.catalog.table? with
    | some table =>
      if table.withoutRowid then none
      else some {
        name
        tableAlias := source.reference
        aliasPath := source.reference.toList
        origin := some ⟨table.name, name⟩
        sqlType := some "INTEGER"
        notNull := true
        declaredNotNull := true
        joinedNullable := false
        expression := none }
    | none => none
  else none

/-- The column `table.name`. -/
def qualified (scope : Scope) (table name : String) : Except ResolveError ResultColumn :=
  match scope.source? table with
  | none => .error (.noTable table)
  | some source =>
    -- nothing is known of such columns, so any name may be one
    if source.hidden then .ok (.unknown name)
    else
      match (source.column? name).or (scope.rowid? source name) with
      | some column => .ok column
      | none => .error (.noColumnOf table name)

/-- The columns called `name`, each with its source. -/
def candidates (scope : Scope) (name : String) : List (Source × ResultColumn) :=
  scope.sources.flatMap fun s =>
    (s.columns.filter fun c => Text.sameName c.name name).map fun c => (s, c)

/-- The column `name`. Among several the first is meant if the others are joined with it. -/
def unqualified (scope : Scope) (name : String) : Except ResolveError ResultColumn :=
  match scope.candidates name with
  | [] =>
    if scope.sources.any Source.hidden then .ok (.unknown name)
    else
      -- a bare name means a row number only where there is no choice between tables
      match scope.sources with
      | [only] =>
        match scope.rowid? only name with
        | some column => .ok column
        | none => .error (.noColumn name)
      | _ => .error (.noColumn name)
  | (_, first) :: others =>
    if others.all fun (s, _) => s.joinedColumns.any fun u => Text.sameName u name then .ok first
    else .error (.ambiguousColumn name)

def column (scope : Scope) (ref : ColumnRef) : Except ResolveError ResultColumn :=
  match ref.table with
  | some table => scope.qualified table ref.column
  | none => scope.unqualified ref.column

def columnType (scope : Scope) (ref : ColumnRef) : ExprType :=
  match scope.column ref with
  | .ok c => ⟨c.sqlType, c.notNull⟩
  | .error _ => .unknown

/-- The columns of `*`. -/
def star (scope : Scope) : Except ResolveError (List ResultColumn) :=
  if scope.sources.isEmpty then .error .starWithoutSources
  else .ok (scope.sources.flatMap Source.starColumns)

/-- The columns of `table.*`. -/
def starOf (scope : Scope) (table : String) : Except ResolveError (List ResultColumn) :=
  match scope.source? table with
  | some source => .ok source.columns
  | none => .error (.noTableForStar table)

end Scope

end TypedRows
