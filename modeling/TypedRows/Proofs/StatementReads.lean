import TypedRows.Proofs.Draft
import TypedRows.Proofs.MapLookup
import TypedRows.Proofs.QueryReads
import Mathlib.Data.List.Find

/-! A statement is analysed against a context only at the names in it: of what it reads, of what its
reference names stand for, and of the table it changes. -/

namespace TypedRows

open Sql

/-- The contexts tell the same about a table or view. -/
structure Context.AgreeAt (a b : Context) (name : String) : Prop where
  table : a.catalog.table? name = b.catalog.table? name
  view : a.catalog.view? name = b.catalog.view? name
  annotations : ∀ column,
    a.inheritance.annotations? name column = b.inheritance.annotations? name column
  overrides : ∀ column,
    a.inheritance.overrides? name column = b.inheritance.overrides? name column
  dynamicFields : a.inheritance.dynamicFields name = b.inheritance.dynamicFields name

theorem Context.AgreeAt.catalog {a b : Context} {name : String} (h : a.AgreeAt b name) :
    a.catalog.AgreeAt b.catalog name :=
  Catalog.agreeAt_of_get? h.table h.view

/-- The names of tables and views that a statement may mean: those it reads, those that its
reference names stand for, and the table that it changes. -/
def Sql.Statement.names : Statement → List String
  | .select query => query.visits.filterMap Visit.relation? ++ query.aliasPairs.map Prod.snd
  | .insert _ change => [change.table.base]
  | .update _ changed change => changed.table :: (aliasPairsOfEntries change.sources).map Prod.snd
  | .delete changed _ _ => [changed.table]
  | .createTable _ | .createView _ | .other _ => []

/-- The names that the entries of the first `SELECT` read. -/
def tableNames : Option Select → List String
  | some first => first.sources.filterMap fun entry => entry.factor.tableName?
  | none => []

theorem Shape.directViews_eq (catalog : Catalog) (query : Query) : directViews catalog query =
    (tableNames query.firstSelect?).filter fun name => (catalog.view? name).isSome := by
  rw [directViews]
  cases query.firstSelect? <;> rfl

theorem tableNamesOfEntries_subset (entries : List Entry) :
    entries.filterMap (fun entry => entry.factor.tableName?) ⊆
      (aliasPairsOfEntries entries).map Prod.snd := by
  induction entries with
  | nil => exact List.Subset.refl _
  | cons entry rest ih =>
    obtain ⟨_, _, factor, _, _⟩ := entry
    have own : factor.tableName?.toList ⊆ factor.aliasPairs.map Prod.snd := by
      cases factor with
      | table name _ aliased _ => cases aliased <;> exact List.Subset.refl _
      | _ => exact List.nil_subset _
    rw [aliasPairsOfEntries, List.map_append]
    intro n member
    obtain ⟨entry, inside, named⟩ := List.mem_filterMap.mp member
    obtain rfl | later := List.mem_cons.mp inside
    · exact List.mem_append_left _ (own (Option.mem_toList.mpr named))
    · exact List.mem_append_right _ (ih (List.mem_filterMap.mpr ⟨entry, later, named⟩))

mutual

theorem Sql.Query.tableNames_subset (query : Query) :
    tableNames query.firstSelect? ⊆ query.aliasPairs.map Prod.snd := by
  obtain ⟨_, ctes, body, _, _, _, _⟩ := query
  rw [Query.firstSelect?, Query.aliasPairs, List.map_append]
  exact List.subset_append_of_subset_right _ body.tableNames_subset
termination_by structural query

theorem Sql.Body.tableNames_subset (body : Body) :
    tableNames body.firstSelect? ⊆ body.aliasPairs.map Prod.snd := by
  cases body with
  | select select =>
    obtain ⟨_, _, _, entries, _, _, _, _, _, _, _⟩ := select
    exact tableNamesOfEntries_subset entries
  | query query => exact query.tableNames_subset
  | compound op quantifier left right =>
    rw [Body.firstSelect?, Body.aliasPairs, List.map_append]
    exact List.subset_append_of_subset_left _ left.tableNames_subset
  | values _ _ | table _ | insert _ | update _ | store _ _ => exact List.nil_subset _
termination_by structural body

end

/-- The tables and views that names may stand for. -/
def Parameter.Names.objects (names : Names) : List String :=
  names.target.toList ++ names.aliases.values

namespace Shape

variable {a b : Context}

theorem ofChange_congr {changed : Changed} (agree : a.AgreeAt b changed.table) (statement : String)
    (kind : StatementKind) (sources : List Entry) (items : List Item) :
    ofChange a.catalog statement kind changed sources items =
      ofChange b.catalog statement kind changed sources items := by
  unfold ofChange returning targetColumns
  rw [agree.catalog.columns]

theorem ofSelect_congr {query : Query}
    (agree : ∀ n ∈ (Statement.select query).names, a.AgreeAt b n) :
    ofSelect a.catalog query = ofSelect b.catalog query := by
  have met : a.catalog.Agree b.catalog query.visits := fun n member =>
    (agree n (List.mem_append_left _ (List.mem_filterMap.mpr ⟨_, member, rfl⟩))).catalog
  have selected : a.catalog.select query = b.catalog.select query :=
    query.columnsIn_congr (met.alike [])
  have views : directViews a.catalog query = directViews b.catalog query := by
    rw [directViews_eq, directViews_eq]
    refine List.filter_congr fun n member => ?_
    rw [(agree n (List.mem_append_right _ (query.tableNames_subset member))).view]
  rw [ofSelect, ofSelect, selected, views]

theorem ofStatement_congr {statement : Statement} (agree : ∀ n ∈ statement.names, a.AgreeAt b n)
    (name : String) :
    ofStatement a.catalog name statement = ofStatement b.catalog name statement := by
  cases statement with
  | select query => exact ofSelect_congr agree
  | insert _ _ | update _ _ _ | delete _ _ _ => exact ofChange_congr (agree _ List.mem_cons_self) ..
  | createTable _ | createView _ | other _ => rfl

/-- What the shape of a statement refers to is among the names of the statement. -/
structure NamedIn (shape : Shape) (names : List String) : Prop where
  objects : Parameter.Names.objects ⟨shape.aliases, shape.target⟩ ⊆ names
  views : shape.views ⊆ names

theorem namedIn_ofChange {catalog : Catalog} {statement : String} {kind : StatementKind}
    {changed : Changed} {sources : List Entry} {items : List Item} {shape : Shape}
    (made : ofChange catalog statement kind changed sources items = .ok shape) :
    shape.NamedIn (changed.table :: (aliasPairsOfEntries sources).map Prod.snd) := by
  obtain ⟨columns, _, made⟩ := bind_eq_ok made
  cases made
  refine ⟨fun n member => ?_, List.nil_subset _⟩
  obtain target | value := List.mem_append.mp member
  · exact List.mem_singleton.mp target ▸ List.mem_cons_self
  · exact OrderedMap.values_putAllNew_subset _ _ value

theorem namedIn_ofStatement {catalog : Catalog} {statement : Statement} {name : String}
    {shape : Shape} (made : ofStatement catalog name statement = .ok shape) :
    shape.NamedIn statement.names := by
  cases statement with
  | select query =>
    obtain ⟨columns, _, made⟩ := bind_eq_ok made
    cases made
    refine ⟨fun n member => ?_, fun n member => ?_⟩
    · exact List.mem_append_right _ (OrderedMap.values_putAllNew_subset _ _ member)
    · rw [directViews_eq] at member
      exact List.mem_append_right _ (query.tableNames_subset (List.mem_filter.mp member).1)
  | insert _ _ | update _ _ _ | delete _ _ _ => exact namedIn_ofChange made
  | createTable _ | createView _ | other _ => cases made

end Shape

namespace Parameter

/-- The column that a parameter meets, with the table or view it belongs to. -/
def met? (names : Names) (catalog : Catalog) (ref : ColumnRef) : Option (String × ResultColumn) :=
  (names.object? catalog ref).bind fun object =>
    (catalog.column? object ref.column).map fun column => (object, column)

theorem ofColumn_eq (context : Context) (names : Names) (name : String) (ref : ColumnRef)
    (assigned : Bool) : ofColumn context names name ref assigned =
      match met? names context.catalog ref with
      | none => .ok (unknown name)
      | some (object, column) => do
        let overrides ← context.inheritance.overrides? object ref.column
        let sqlType := (overrides.bind FieldOverrides.sqlTypeHint).or column.sqlType
        return {
          name
          propertyName := Naming.snakeCase name
          propertyType :=
            (overrides.bind FieldOverrides.propertyType).getD (context.types.rustType sqlType)
          sqlType
          notNull := !assigned || (overrides.bind FieldOverrides.notNull).getD column.notNull
          adapter := (overrides.map FieldOverrides.adapter).getD false
          column := some ⟨object, column.name⟩ } := rfl

variable {a b : Context} {names : Names}

theorem Names.object?_mem {catalog : Catalog} {ref : ColumnRef} {object : String}
    (found : names.object? catalog ref = some object) : object ∈ names.objects := by
  rw [Names.object?] at found
  cases qualifier : ref.table with
  | some table =>
    rw [qualifier] at found
    obtain ⟨entry, first, rfl⟩ := Option.map_eq_some_iff.mp found
    exact List.mem_append_right _ (List.mem_map.mpr ⟨entry, List.mem_of_find?_eq_some first, rfl⟩)
  | none =>
    rw [qualifier] at found
    exact List.mem_of_find?_eq_some found

variable (agree : ∀ n ∈ names.objects, a.AgreeAt b n)
include agree

theorem object?_congr (ref : ColumnRef) :
    names.object? a.catalog ref = names.object? b.catalog ref := by
  rw [Names.object?, Names.object?]
  cases ref.table with
  | some table => rfl
  | none =>
    refine List.find?_congr fun n member => ?_
    rw [Catalog.column?, Catalog.column?, (agree n member).catalog.columns]

theorem met?_congr (ref : ColumnRef) : met? names a.catalog ref = met? names b.catalog ref := by
  rw [met?, met?, object?_congr agree]
  cases found : names.object? b.catalog ref with
  | none => rfl
  | some object =>
    rw [Option.bind_some, Option.bind_some, Catalog.column?, Catalog.column?,
      (agree object (Names.object?_mem found)).catalog.columns]

theorem ofColumn_congr (types : a.types = b.types) (name : String) (ref : ColumnRef)
    (assigned : Bool) :
    ofColumn a names name ref assigned = ofColumn b names name ref assigned := by
  rw [ofColumn_eq, ofColumn_eq, met?_congr agree]
  cases met : met? names b.catalog ref with
  | none => rfl
  | some pair =>
    obtain ⟨object, found, own⟩ := Option.bind_eq_some_iff.mp met
    obtain ⟨column, _, rfl⟩ := Option.map_eq_some_iff.mp own
    dsimp only
    rw [(agree object (Names.object?_mem found)).overrides, types]

theorem all_congr (types : a.types = b.types) (item : ScriptItem) :
    all a names item = all b names item := by
  have hint : ∀ name hint, ofHint a names name hint = ofHint b names name hint := by
    intro name hint
    match hint with
    | some (.column ref assigned) => exact ofColumn_congr agree types name ref _
    | some .limit => rfl
    | none => rfl
  rw [all, all]
  refine congrArg (List.mapM · _) (funext fun name => ?_)
  rw [infer, infer, hint]
  simp only [castTo, types]

end Parameter

namespace TypedStatement

/-- Contexts that agree at the names of a statement, and on what its columns inherit, give the same
types or the same error. -/
theorem analyse_congr {a b : Context} (types : a.types = b.types) {place : Place}
    {item : ScriptItem} (agree : ∀ n ∈ item.statement.names, a.AgreeAt b n)
    (inherits : ∀ shape, Shape.ofStatement a.catalog place.name item.statement = .ok shape →
      ∀ column ∈ shape.columns, Field.inherited a column = Field.inherited b column) :
    analyse a place item = analyse b place item := by
  rw [analyse_eq, analyse_eq, ← Shape.ofStatement_congr agree]
  cases made : Shape.ofStatement a.catalog place.name item.statement with
  | error e => rfl
  | ok shape =>
    have named := Shape.namedIn_ofStatement made
    have drafts := draft_congr types (inherits shape made)
      (fun view member => (agree view (named.views member)).dynamicFields) place.name item.comments
    have parameters := Parameter.all_congr (fun n member => agree n (named.objects member)) types
      item
    change (draft a _ _ _ _ >>= _) = draft b _ _ _ _ >>= _
    rw [drafts]
    refine congrArg _ (funext fun drafted => ?_)
    rw [finish, finish, parameters]

end TypedStatement

end TypedRows
