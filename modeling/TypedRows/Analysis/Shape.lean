import TypedRows.Analysis.Context
import TypedRows.Schema.Reference

/-!
The shape of a statement: its kind, the columns it returns, and what the names in it stand for.
-/

namespace TypedRows

open Sql

inductive StatementKind where
  | select
  | insert
  | update
  | delete
  deriving DecidableEq

structure Shape where
  kind : StatementKind
  columns : List ResultColumn
  /-- Reference names with the names they stand for. -/
  aliases : OrderedMap String String
  target : Option String
  /-- The views that the statement reads directly. Their dynamic fields are its own. -/
  views : List String

namespace Sql.Changed

def reference (changed : Changed) : String :=
  changed.aliasName.getD changed.table

def hasName (changed : Changed) (name : String) : Bool :=
  Text.sameName name changed.table ||
    match changed.aliasName with
    | some a => Text.sameName a name
    | none => false

end Sql.Changed

namespace Shape

/-- The columns of the changed table as `RETURNING` sees them. -/
def targetColumns (catalog : Catalog) (changed : Changed) :
    Except Error (List ResultColumn) :=
  match catalog.columns? changed.table with
  | none => .error (.resolve (.noTargetTable changed.table))
  | some columns => .ok (columns.map fun c => {
      c with
      tableAlias := some (changed.reference)
      aliasPath := [changed.reference] })

/-- The columns that an item of `RETURNING` stands for. Only columns of the changed table may be
returned, and under their own names. -/
def returned (statement : String) (changed : Changed) (columns : List ResultColumn)
    (item : Item) : Except Error (List ResultColumn) :=
  match item with
  | .star _ [] => .ok columns
  | .star _ path =>
    if changed.hasName path.base then .ok columns
    else .error (.returning statement (.otherStar path.base))
  | .expr (some _) _ => .error (.returning statement (.aliased item.print))
  | .expr none e =>
    match e.columnRef? with
    | none => .error (.returning statement (.notColumn e.print))
    | some ref =>
      match ref.table.filter fun table => !changed.hasName table with
      | some table => .error (.returning statement (.otherColumn table ref.column))
      | none =>
        match columns.find? fun c => Text.sameName c.name ref.column with
        | some column => .ok [column]
        | none => .error (.resolve (.noReturnedColumn ref.column changed.table))

def returning (catalog : Catalog) (statement : String) (changed : Changed)
    (items : List Item) : Except Error (List ResultColumn) :=
  if items.isEmpty then .ok []
  else do
    let columns ← targetColumns catalog changed
    return (← items.mapM (returned statement changed columns)).flatten

def ofChange (catalog : Catalog) (statement : String) (kind : StatementKind)
    (changed : Changed) (sources : List Entry) (items : List Item) : Except Error Shape := do
  let columns ← returning catalog statement changed items
  let own := OrderedMap.empty.put (changed.reference) changed.table
  return {
    kind
    columns
    aliases := own.putAllNew (aliasPairsOfEntries sources)
    target := some changed.table
    views := [] }

/-- The views among the entries of the first `SELECT`. -/
def directViews (catalog : Catalog) (query : Query) : List String :=
  match query.firstSelect? with
  | some select =>
    (select.sources.filterMap fun entry => entry.factor.tableName?).filter fun name =>
      (catalog.view? name).isSome
  | none => []

def ofSelect (catalog : Catalog) (query : Query) : Except Error Shape := do
  let columns ← (catalog.select query).mapError .resolve
  return {
    kind := .select
    columns
    aliases := query.aliases
    target := none
    views := directViews catalog query }

def ofStatement (catalog : Catalog) (name : String) : Statement → Except Error Shape
  | .select query => ofSelect catalog query
  | .insert _ change =>
    ofChange catalog name .insert ⟨change.table.base, none⟩ [] change.returning
  | .update _ changed change =>
    ofChange catalog name .update changed change.sources change.returning
  | .delete changed _ returning => ofChange catalog name .delete changed [] returning
  | .createTable _ | .createView _ | .other _ => .error (.notQuery name)

end Shape

end TypedRows
