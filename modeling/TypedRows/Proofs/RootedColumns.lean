import TypedRows.Proofs.ColumnInvariants

/-! What a query returns unchanged is copied from a table or view of the catalog. -/

namespace TypedRows

open Sql

/-- The column is copied from a table or view of the catalog, if it is copied. -/
def ResultColumn.Rooted (catalog : Catalog) (column : ResultColumn) : Prop :=
  ∀ origin ∈ column.origin, catalog.contains origin.object = true

def AllRooted (catalog : Catalog) (columns : List ResultColumn) : Prop :=
  ∀ column ∈ columns, column.Rooted catalog

variable {catalog : Catalog}

theorem Catalog.Orderly.contains_table (orderly : catalog.Orderly) {name : String} {table : Table}
    (found : catalog.table? name = some table) : catalog.contains table.name = true := by
  have key := (orderly.table _ _ found).1
  rw [Catalog.contains, Catalog.table?, key, show catalog.tables.get? (Text.foldLower name) =
    some table from found]
  rfl

theorem Catalog.Orderly.contains_view (orderly : catalog.Orderly) {name : String} {view : View}
    (found : catalog.view? name = some view) : catalog.contains view.name = true := by
  rw [Catalog.contains, orderly.view?_name found]
  exact Bool.or_true _

/-- The columns of a table or view are copied from it. -/
theorem Catalog.Orderly.columns? (orderly : catalog.Orderly) {name : String}
    {columns : List ResultColumn} (found : catalog.columns? name = some columns) :
    AllRooted catalog columns := by
  rw [Catalog.columns?] at found
  cases known : catalog.table? name with
  | some table =>
    rw [known] at found
    cases found
    intro column member origin copied
    obtain ⟨declared, _, rfl⟩ := List.mem_map.mp member
    cases copied
    exact orderly.contains_table known
  | none =>
    rw [known] at found
    obtain ⟨view, known, rfl⟩ := Option.map_eq_some_iff.mp found
    intro column member origin copied
    obtain ⟨stored, _, rfl⟩ := List.mem_map.mp member
    cases copied
    exact orderly.contains_view known

theorem ResultColumn.Rooted.merge {a b : ResultColumn} (h : a.Rooted catalog) :
    (ResultColumn.merge a b).Rooted catalog := by
  intro origin copied
  rw [ResultColumn.merge] at copied
  dsimp only at copied
  split at copied
  · exact h origin copied
  · cases copied

/-- No step of a query copies a column from anywhere else. -/
theorem Catalog.Orderly.keeps_rooted (orderly : catalog.Orderly) :
    catalog.Keeps (ResultColumn.Rooted catalog) fun source => AllRooted catalog source.columns where
  unknown _ := nofun
  computed _ _ _ := nofun
  renamed _ h := h
  merged h _ := h.merge
  object _ found := orderly.columns? found
  result _ all := all
  call _ := List.forall_mem_nil _
  joined _ _ h := h
  seen {_ column} all member := all column member
  rowid same found := by
    obtain ⟨object, table, known, rfl⟩ := Scope.rowid?_eq_some found
    intro origin copied
    cases copied
    exact orderly.contains_table (same ▸ known)
  target _ found := orderly.columns? found

/-- The columns of the views of a schema are copied from tables and views of the schema. -/
theorem Catalog.rooted_views {items : List ScriptItem} (read : ofScript items = .ok catalog)
    {key : String} {view : View} (found : catalog.views.get? key = some view) :
    AllRooted catalog view.columns :=
  (orderly_ofScript read).keeps_rooted.views read found

/-- What a statement returns unchanged is copied from a table or view of the catalog. -/
theorem Shape.rooted_ofStatement (orderly : catalog.Orderly) {statement : Statement} {name : String}
    {shape : Shape} (made : ofStatement catalog name statement = .ok shape) :
    AllRooted catalog shape.columns :=
  orderly.keeps_rooted.statement made

end TypedRows
