import TypedRows.Schema.Scope
import TypedRows.Sql.Tree.Print

/-!
The columns that a query returns, and the types of the expressions in it.
-/

namespace TypedRows

open Sql

namespace ResultColumn

/-- A column that an expression computes. -/
def computed (name : String) (type : ExprType) (text : String) : ResultColumn := {
  unknown name with
  sqlType := type.sqlType
  notNull := type.notNull
  declaredNotNull := type.notNull
  expression := some text }

/-- Gives the columns the names of the same place. -/
def rename : List String → List ResultColumn → List ResultColumn
  | name :: names, column :: columns => { column with name } :: rename names columns
  | [], columns => columns
  | _ :: _, [] => []

/-- The columns under the names that a common table expression gives them, if it gives any. -/
def renameAll (cte : String) (names : List String) (columns : List ResultColumn) :
    Except ResolveError (List ResultColumn) :=
  if names.isEmpty then .ok columns
  else if names.length ≠ columns.length then
    .error (.cteColumns cte names.length columns.length)
  else .ok (rename names columns)

/-- A column of a compound query. Members that copy from different columns leave no origin. -/
def merge (a b : ResultColumn) : ResultColumn := {
  a with
  notNull := a.notNull && b.notNull
  declaredNotNull := a.declaredNotNull && b.declaredNotNull
  joinedNullable := a.joinedNullable || b.joinedNullable
  origin := if a.origin = b.origin then a.origin else none
  sqlType := a.sqlType.or b.sqlType }

def mergeAll (first other : List ResultColumn) : Except ResolveError (List ResultColumn) :=
  if first.length ≠ other.length then .error (.compoundColumns first.length other.length)
  else .ok (List.zipWith merge first other)

end ResultColumn

namespace Source

/-- The source that a name stands for. A common table expression hides tables and views. -/
def named (catalog : Catalog) (ctes : Ctes) (name : String) (aliased : Option Alias) :
    Except ResolveError Source :=
  let reference := some (match aliased with
    | some a => a.name.text
    | none => name)
  match ctes.find? fun cte => Text.sameName cte.1 name with
  | some (_, columns) => .ok (unjoined reference none columns true false)
  | none =>
    if catalog.isCyclic name then .error (.cyclicView name)
    else
      match catalog.columns? name with
      | some columns => .ok (unjoined reference (some name) columns false false)
      | none => .error (.noObject name)

/-- A subquery in `FROM`. -/
def derived (aliased : Option Alias) (columns : List ResultColumn) : Source :=
  match aliased with
  | some a =>
    unjoined (some a.name.text) none
      (ResultColumn.rename (a.columns.map Ident.text) columns) true false
  | none => unjoined none none columns true false

/-- A source of which the columns are unknown. -/
def ofCall (reference : Option String) : Source :=
  unjoined reference none [] true true

end Source

def Scope.ofSources (catalog : Catalog) (ctes : Ctes) (sources : List Source) : Scope :=
  ⟨catalog, ctes, sources.map Source.finish⟩

def isStarArgument : Item → Bool
  | .star none _ => true
  | .star (some _) _ | .expr _ _ => false

mutual

def Sql.Expr.typeIn (e : Expr) (scope : Scope) : ExprType :=
  match e with
  | .column path =>
    match ColumnRef.ofPath? path with
    | some ref => scope.columnType ref
    | none => .unknown
  | .literal value => .ofLiteral value
  | .nested e => e.typeIn scope
  | .unary op e => .ofUnary op (e.typeIn scope)
  | .factorial e => e.typeIn scope
  | .binary op left right => .ofBinary op (left.typeIn scope) (right.typeIn scope)
  | .is test _ _ => .ofIs test
  | .isDistinct _ _ _ => .named "INTEGER" true
  | .like _ _ _ e pattern _ =>
    .named "INTEGER" ((e.typeIn scope).notNull && (pattern.typeIn scope).notNull)
  | .between _ e low high =>
    .named "INTEGER" ((e.typeIn scope).notNull && (low.typeIn scope).notNull &&
      (high.typeIn scope).notNull)
  | .inList _ e list =>
    .named "INTEGER" ((e.typeIn scope).notNull && ExprType.allNotNull (typesOfExprs list scope))
  | .inQuery _ e _ => .named "INTEGER" (e.typeIn scope).notNull
  | .existsRow _ _ => .named "INTEGER" true
  | .subquery query =>
    -- without a row the value is null, whatever the column says
    match query.columnsIn scope.catalog scope.ctes true with
    | .ok (column :: _) => ⟨column.sqlType, false⟩
    | .ok [] | .error _ => .unknown
  | .call call => call.typeIn scope
  | .choose _ branches otherwise =>
    .ofChoice (typesOfBranches branches scope)
      (match otherwise with
        | some e => some (e.typeIn scope)
        | none => none)
  | .cast _ e type _ => .named type (e.typeIn scope).notNull
  | .collate e _ => e.typeIn scope
  | .trim _ _ e => .named "TEXT" (e.typeIn scope).notNull
  | .substring e _ _ _ => .named "TEXT" (e.typeIn scope).notNull
  | .arrayOf _ _ | .tuple _ | .phrase _ => .unknown

def typesOfExprs (list : List Expr) (scope : Scope) : List ExprType :=
  match list with
  | [] => []
  | e :: rest => e.typeIn scope :: typesOfExprs rest scope

def Sql.Branch.typeIn (branch : Branch) (scope : Scope) : ExprType :=
  match branch with
  | ⟨_, result⟩ => result.typeIn scope

def typesOfBranches (branches : List Branch) (scope : Scope) : List ExprType :=
  match branches with
  | [] => []
  | branch :: rest => branch.typeIn scope :: typesOfBranches rest scope

def Sql.Call.typeIn (call : Call) (scope : Scope) : ExprType :=
  match call with
  | ⟨name, _, _, arguments, _, _, _, _⟩ =>
    .ofCall (Text.foldUpper name.base) (typesOfArguments arguments scope)
      (arguments.any isStarArgument)

def typesOfArguments (arguments : List Item) (scope : Scope) : List ExprType :=
  match arguments with
  | [] => []
  | .expr _ e :: rest => e.typeIn scope :: typesOfArguments rest scope
  | .star _ _ :: rest => typesOfArguments rest scope

/-- The columns of a query. Of a compound query `allMembers` asks for those that fit every
member; without it the first member decides, so that a query may read itself. -/
def Sql.Query.columnsIn (query : Query) (catalog : Catalog) (ctes : Ctes) (allMembers : Bool) :
    Except ResolveError (List ResultColumn) :=
  match query with
  | ⟨_, list, body, _, _, _, _⟩ => do
    body.columnsIn catalog (← ctesOf list catalog ctes) allMembers

def ctesOf (list : List Cte) (catalog : Catalog) (ctes : Ctes) : Except ResolveError Ctes :=
  match list with
  | [] => .ok ctes
  | ⟨name, columns, query, _⟩ :: rest => do
    let returned ← query.columnsIn catalog ctes false
    let named ← ResultColumn.renameAll name.text (columns.map Ident.text) returned
    ctesOf rest catalog ((name.text, named) :: ctes)

def Sql.Body.columnsIn (body : Body) (catalog : Catalog) (ctes : Ctes) (allMembers : Bool) :
    Except ResolveError (List ResultColumn) :=
  match body with
  | .select select => select.columnsIn catalog ctes
  | .query query => query.columnsIn catalog ctes allMembers
  | .compound _ _ left right => do
    let first ← left.columnsIn catalog ctes allMembers
    if allMembers then
      ResultColumn.mergeAll first (← right.columnsIn catalog ctes true)
    else return first
  | .values _ rows =>
    match rows with
    | [] => .error .noRows
    -- the first row stands for all
    | row :: _ => .ok (valueColumns row (Scope.ofSources catalog ctes []) 1)
  | .table _ | .insert _ | .update _ | .store _ _ => .error (.unsupportedBody body.print)

/-- The columns of a row of values, which are numbered. -/
def valueColumns (row : List Expr) (scope : Scope) (number : Nat) : List ResultColumn :=
  match row with
  | [] => []
  | e :: rest =>
    .computed s!"column{number}" (e.typeIn scope) e.print :: valueColumns rest scope (number + 1)

def Sql.Select.columnsIn (select : Select) (catalog : Catalog) (ctes : Ctes) :
    Except ResolveError (List ResultColumn) :=
  match select with
  | ⟨_, items, _, entries, _, _, _, _, _, _, _⟩ => do
    columnsOfItems items (.ofSources catalog ctes (← sourcesOf entries catalog ctes []))

def columnsOfItems (items : List Item) (scope : Scope) :
    Except ResolveError (List ResultColumn) :=
  match items with
  | [] => .ok []
  | item :: rest => do
    let columns ← item.columnsIn scope
    return columns ++ (← columnsOfItems rest scope)

/-- The columns of one item. A column of a source stays that column under another name. -/
def Sql.Item.columnsIn (item : Item) (scope : Scope) : Except ResolveError (List ResultColumn) :=
  match item with
  | .star _ [] => scope.star
  | .star _ path => scope.starOf path.base
  | .expr label e =>
    match e.columnRef? with
    | some ref => do
      let column ← scope.column ref
      match label with
      | some name => return [{ column with name := name.text }]
      | none => return [column]
    | none =>
      let name := match label with
        | some name => name.text
        | none => e.print
      .ok [.computed name (e.typeIn scope) e.print]

/-- Joins the entries of `FROM` to the sources before them. -/
def sourcesOf (entries : List Entry) (catalog : Catalog) (ctes : Ctes) (before : List Source) :
    Except ResolveError (List Source) :=
  match entries with
  | [] => .ok before
  | ⟨_, link, factor, _, constraint⟩ :: rest => do
    sourcesOf rest catalog ctes (← factor.joinTo link.side constraint catalog ctes before)

/-- Joins what an entry of `FROM` reads to the sources before it. The first of several entries in
parentheses takes the place of them all. -/
def Sql.Factor.joinTo (factor : Factor) (side : Side) (constraint : Constraint)
    (catalog : Catalog) (ctes : Ctes) (before : List Source) :
    Except ResolveError (List Source) :=
  match factor with
  | .table name _ aliased _ => do
    return Source.join before side constraint (← Source.named catalog ctes name.base aliased)
  | .derived _ query aliased => do
    let columns ← query.columnsIn catalog ctes true
    return Source.join before side constraint (Source.derived aliased columns)
  | .nested first joins _ => do
    sourcesOf joins catalog ctes (← first.joinTo side constraint catalog ctes before)
  | .call _ name _ _ aliased _ =>
    let reference := match aliased with
      | some a => a.name.text
      | none => name.base
    .ok (Source.join before side constraint (Source.ofCall (some reference)))
  | .tableOf _ aliased =>
    .ok (Source.join before side constraint (Source.ofCall (aliased.map fun a => a.name.text)))
  | .pivot _ _ | .phrase _ => .ok (Source.join before side constraint (Source.ofCall none))

end

def Catalog.select (catalog : Catalog) (query : Query) : Except ResolveError (List ResultColumn) :=
  query.columnsIn catalog [] true

end TypedRows
