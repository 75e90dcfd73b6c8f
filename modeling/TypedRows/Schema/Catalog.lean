import TypedRows.Annotations.Extract
import TypedRows.Schema.Column
import TypedRows.Sql.Statement

/-!
The tables and views of a schema, found by name in any letter case.
-/

namespace TypedRows

open Sql

structure Table where
  name : String
  columns : List ColumnDecl
  withoutRowid : Bool
  annotations : Annotations
  fieldAnnotations : OrderedMap String Annotations
  sql : String

structure View where
  name : String
  query : Query
  /-- The column names after the view name, if any. -/
  explicitColumns : List String
  columns : List ResultColumn
  /-- Whether the definition reads itself, or a view that does. Such a view has no columns. -/
  cyclic : Bool
  annotations : Annotations
  fieldAnnotations : OrderedMap String Annotations
  sql : String

/-- Tables and views under their names in lower case. -/
structure Catalog where
  tables : OrderedMap String Table
  views : OrderedMap String View

namespace Table

def column? (table : Table) (name : String) : Option ColumnDecl :=
  table.columns.find? fun c => Text.sameName c.name name

def syncEnabled (table : Table) : Bool :=
  ((table.annotations.get? Key.enableSync).bind Value.bool?).getD false

/-- The column by which rows are matched: the one given, or else the first key column. -/
def syncKeyColumn? (table : Table) : Option String :=
  ((table.annotations.get? Key.syncKeyColumnName).bind Value.text?).or
    ((table.columns.find? ColumnDecl.primaryKey).map ColumnDecl.name)

def resultColumns (table : Table) : List ResultColumn :=
  table.columns.map fun c => {
    ResultColumn.unknown c.name with
    origin := some ⟨table.name, c.name⟩
    sqlType := c.type
    notNull := c.notNull
    declaredNotNull := c.notNull }

end Table

namespace View

def column? (view : View) (name : String) : Option ResultColumn :=
  view.columns.find? fun c => Text.sameName c.name name

/-- Seen from outside, a column comes from the view itself. -/
def resultColumns (view : View) : List ResultColumn :=
  view.columns.map fun c => {
    c with
    origin := some ⟨view.name, c.name⟩
    declaredNotNull := c.notNull
    joinedNullable := false }

end View

namespace Catalog

def empty : Catalog := ⟨.empty, .empty⟩

def table? (catalog : Catalog) (name : String) : Option Table :=
  catalog.tables.get? (Text.foldLower name)

def view? (catalog : Catalog) (name : String) : Option View :=
  catalog.views.get? (Text.foldLower name)

def contains (catalog : Catalog) (name : String) : Bool :=
  (catalog.table? name).isSome || (catalog.view? name).isSome

def isCyclic (catalog : Catalog) (name : String) : Bool :=
  match catalog.view? name with
  | some view => view.cyclic
  | none => false

/-- The columns of a table or view, each with that object as its origin. -/
def columns? (catalog : Catalog) (name : String) : Option (List ResultColumn) :=
  match catalog.table? name with
  | some table => some table.resultColumns
  | none => (catalog.view? name).map View.resultColumns

def column? (catalog : Catalog) (object column : String) : Option ResultColumn :=
  (catalog.columns? object).bind fun columns =>
    columns.find? fun c => Text.sameName c.name column

end Catalog

end TypedRows
