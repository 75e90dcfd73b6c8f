import TypedRows.Error
import TypedRows.Schema.Resolve
import TypedRows.Schema.Views
import TypedRows.Sql.Script

/-!
The catalog of a schema: its statements are entered one after the other, and then the columns of
the views are resolved.
-/

namespace TypedRows

open Sql

namespace Catalog

def checkNew (catalog : Catalog) (name : String) : Except Error Unit :=
  if catalog.contains name then .error (.resolve (.definedTwice name)) else .ok ()

def annotationsOf (item : ScriptItem) : Except Error CommentAnnotations :=
  (CommentAnnotations.ofComments item.comments).mapError .annotations

/-- Enters what a statement declares. The columns of a view come later. -/
def enter (catalog : Catalog) (item : ScriptItem) : Except Error Catalog :=
  match item.statement with
  | .createTable decl => do
    let annotations ← annotationsOf item
    catalog.checkNew decl.name
    return { catalog with tables := catalog.tables.put (Text.foldLower decl.name) {
      name := decl.name
      columns := decl.columns
      withoutRowid := decl.withoutRowid
      annotations := annotations.statement
      fieldAnnotations := annotations.fields
      sql := item.sql } }
  | .createView decl => do
    let annotations ← annotationsOf item
    catalog.checkNew decl.name
    return { catalog with views := catalog.views.put (Text.foldLower decl.name) {
      name := decl.name
      query := decl.query
      explicitColumns := decl.columns
      columns := []
      cyclic := false
      annotations := annotations.statement
      fieldAnnotations := annotations.fields
      sql := item.sql } }
  | .select _ | .insert _ _ | .update _ _ _ | .delete _ _ _ | .other _ => .ok catalog

/-- The columns of a view under their explicit names, if it has them. -/
def viewColumns (catalog : Catalog) (view : View) :
    Except ResolveError (List ResultColumn) := do
  let columns ← (catalog.select view.query).mapError (.view view.name)
  if view.explicitColumns.isEmpty then return columns
  if view.explicitColumns.length ≠ columns.length then
    throw (.viewColumns view.name view.explicitColumns.length columns.length)
  return ResultColumn.rename view.explicitColumns columns

def putView (catalog : Catalog) (key : String) (view : View) : Catalog :=
  { catalog with views := catalog.views.put key view }

/-- Resolves one view. One that is on a circle, or reads a view that is, gets no columns; `cyclic`
holds the keys of such views. -/
def resolveView (graph : ViewGraph) (state : Catalog × List String) (key : String) :
    Except ResolveError (Catalog × List String) :=
  let (catalog, cyclic) := state
  match catalog.views.get? key with
  | none => .ok state
  | some view =>
    if cyclic.contains key || (graph.reads key).any cyclic.contains then
      .ok (catalog.putView key { view with cyclic := true }, key :: cyclic)
    else do
      let columns ← catalog.viewColumns view
      return (catalog.putView key { view with columns }, cyclic)

def resolveViews (catalog : Catalog) : Except ResolveError Catalog := do
  let graph := ViewGraph.ofViews catalog.views
  let ⟨order, cyclic⟩ := ViewOrder.ofGraph graph
  let (resolved, _) ← order.foldlM (resolveView graph) (catalog, cyclic)
  return resolved

/-- The catalog of a schema, or the first error in it. -/
def ofScript (items : List ScriptItem) : Except Error Catalog := do
  let entered ← items.foldlM enter empty
  entered.resolveViews.mapError .resolve

def ofText (schema : String) : Except Error Catalog := do
  ofScript (← (Script.parse schema).mapError .sql)

end Catalog

end TypedRows
