import TypedRows.Proofs.RenamedCatalogs

/-! Saying of more table columns that they are never null only makes more result columns known to be
never null. Names, types and origins do not depend on it, nor does whether a query is accepted. -/

namespace TypedRows

open Sql

/-- What was never null is never null still, and nothing else differs. -/
def Tolerance.tighter : Tolerance where
  flag a b := a = true → b = true
  text := Eq
  cte := Eq
  error := Eq
  flag_refl _ := id
  flag_and {a b c d} h k both := by
    obtain ⟨first, second⟩ := Bool.and_eq_true_iff.mp both
    rw [h first, k second, Bool.and_self]
  flag_or {a b c d} h k either := by
    obtain first | second := Bool.or_eq_true_iff.mp either
    · rw [h first, Bool.true_or]
    · rw [k second, Bool.or_true]
  text_refl _ := rfl
  cte_refl _ := rfl
  error_refl _ := rfl
  error_cte same _ _ := by rw [same]
  error_view same _ := by rw [same]

/-- The column is the same, and never null where it was. -/
structure ResultColumn.Tighter (a b : ResultColumn) : Prop where
  same : { a with notNull := b.notNull, declaredNotNull := b.declaredNotNull } = b
  notNull : a.notNull = true → b.notNull = true
  declaredNotNull : a.declaredNotNull = true → b.declaredNotNull = true

theorem eq_of_rel {α : Type} {x y : Option α} (h : Option.Rel Eq x y) : x = y := by
  cases h with
  | none => rfl
  | some same => exact congrArg some same

theorem ResultColumn.Near.tighter {a b : ResultColumn} (near : a.Near .tighter true b) :
    a.Tighter b := by
  have text := eq_of_rel (near.expression rfl)
  obtain ⟨name, tableAlias, aliasPath, origin, sqlType, notNull, declared, joinedNullable, _⟩ :=
    near
  cases a
  cases b
  cases name rfl
  cases tableAlias
  cases aliasPath
  cases origin
  cases sqlType
  cases joinedNullable
  cases text
  exact ⟨rfl, notNull, declared⟩

namespace Sql

/-- `NOT NULL` is put in among the options of a column, perhaps several times or not at all. -/
inductive ColumnOption.Extended : List ColumnOption → List ColumnOption → Prop where
  | nil : Extended [] []
  | keep (option : ColumnOption) {options options' : List ColumnOption}
      (rest : Extended options options') : Extended (option :: options) (option :: options')
  | add {options options' : List ColumnOption} (rest : Extended options options') :
      Extended options (.notNull :: options')

structure ColumnSyntax.Extended (c d : ColumnSyntax) : Prop where
  name : c.name = d.name
  type : c.type = d.type
  options : ColumnOption.Extended c.options d.options

/-- `NOT NULL` is put in among the options of some columns. -/
structure TableSyntax.Extended (s t : TableSyntax) : Prop where
  name : s.name = t.name
  columns : List.Forall₂ ColumnSyntax.Extended s.columns t.columns
  primaryKeys : s.primaryKeys = t.primaryKeys
  withoutRowid : s.withoutRowid = t.withoutRowid
  fromQuery : s.fromQuery = t.fromQuery

/-- The declaration is the same, but more columns may be never null. -/
structure TableDecl.Tightened (s t : TableDecl) : Prop where
  name : s.name = t.name
  columns : List.Forall₂ (ColumnDecl.Near .tighter) s.columns t.columns
  withoutRowid : s.withoutRowid = t.withoutRowid

namespace ColumnDecl

variable {c d : ColumnDecl} {columns columns' : List ColumnDecl}

theorem Near.applyOption (h : c.Near .tighter d) (option : ColumnOption) :
    (c.applyOption option).Near .tighter (d.applyOption option) := by
  cases option with
  | notNull => exact { h with notNull := fun _ => rfl }
  | primaryKey => exact { h with primaryKey := rfl }
  | default value => exact { h with default := rfl }
  | other => exact h

theorem Near.applyOptions (h : c.Near .tighter d) {options options' : List ColumnOption}
    (more : ColumnOption.Extended options options') :
    (options.foldl ColumnDecl.applyOption c).Near .tighter
      (options'.foldl ColumnDecl.applyOption d) := by
  induction more generalizing c d with
  | nil => exact h
  | keep option _ ih => exact ih (h.applyOption option)
  | add _ ih => exact ih { h with notNull := fun _ => rfl }

theorem Near.makeKey (h : c.Near .tighter d) (sole : Bool) :
    (c.makeKey sole).Near .tighter (d.makeKey sole) := by
  refine { h with primaryKey := rfl, notNull := ?_ }
  rw [ColumnDecl.makeKey, ColumnDecl.makeKey, h.type]
  exact Tolerance.tighter.flag_or h.notNull id

theorem ofSyntax_tightened {c d : ColumnSyntax} (h : c.Extended d) :
    (ofSyntax c).Near .tighter (ofSyntax d) := by
  have start : (ColumnDecl.mk c.name c.type false false none).Near .tighter
      ⟨d.name, d.type, false, false, none⟩ := ⟨h.name, h.type, id, rfl, rfl⟩
  have decl := start.applyOptions h.options
  unfold ofSyntax
  dsimp only
  rw [decl.primaryKey]
  split
  · exact decl.makeKey true
  · exact decl

theorem markKey_tightened (h : List.Forall₂ (ColumnDecl.Near .tighter) columns columns')
    (sole : Bool) (name : String) :
    List.Forall₂ (ColumnDecl.Near .tighter) (markKey sole name columns)
      (markKey sole name columns') := by
  induction h with
  | nil => exact .nil
  | cons first others ih =>
    rw [markKey, markKey, first.name]
    split
    · exact .cons (first.makeKey sole) others
    · exact .cons first ih

theorem markKeys_tightened (h : List.Forall₂ (ColumnDecl.Near .tighter) columns columns')
    (sole : Bool) (names : List String) :
    List.Forall₂ (ColumnDecl.Near .tighter)
      (names.foldl (fun columns name => markKey sole name columns) columns)
      (names.foldl (fun columns name => markKey sole name columns) columns') := by
  induction names generalizing columns columns' with
  | nil => exact h
  | cons name rest ih => exact ih (markKey_tightened h sole name)

end ColumnDecl

namespace TableDecl

theorem applyKeys_tightened {columns columns' : List ColumnDecl}
    (h : List.Forall₂ (ColumnDecl.Near .tighter) columns columns') (keys : List (List String)) :
    List.Forall₂ (ColumnDecl.Near .tighter) (keys.foldl applyKey columns)
      (keys.foldl applyKey columns') := by
  induction keys generalizing columns columns' with
  | nil => exact h
  | cons key rest ih => exact ih (ColumnDecl.markKeys_tightened h _ key)

/-- Where `NOT NULL` is put in more columns are declared never null, and nothing else changes. -/
theorem ofSyntax?_tightened {s t : TableSyntax} (h : s.Extended t) {decl : TableDecl}
    (read : ofSyntax? s = some decl) :
    ∃ decl', ofSyntax? t = some decl' ∧ decl.Tightened decl' := by
  rw [ofSyntax?, h.fromQuery] at read
  rw [ofSyntax?]
  split at read
  · cases read
  · rename_i own
    cases read
    rw [if_neg own]
    refine ⟨_, rfl, h.name, ?_, h.withoutRowid⟩
    rw [h.primaryKeys]
    refine applyKeys_tightened ?_ _
    rw [List.forall₂_map_left_iff, List.forall₂_map_right_iff]
    exact h.columns.imp fun _ _ column => ColumnDecl.ofSyntax_tightened column

end TableDecl

/-- The schema's statement is the same, or declares more columns of a table never null. -/
inductive ScriptItem.Tightened : ScriptItem → ScriptItem → Prop where
  | table {i j : ScriptItem} {s t : TableDecl} (before : i.statement = .createTable s)
      (after : j.statement = .createTable t) (comments : i.comments = j.comments)
      (decl : s.Tightened t) : Tightened i j
  | same (item : ScriptItem) : Tightened item item

theorem ScriptItem.Tightened.near {i j : ScriptItem} (h : i.Tightened j) : i.Near .tighter j := by
  cases h with
  | table before after comments decl =>
    refine ⟨comments, ?_⟩
    rw [before, after]
    exact .table decl.name decl.columns decl.withoutRowid
  | same =>
    refine ⟨rfl, ?_⟩
    cases i.statement with
    | createTable decl =>
      refine .table rfl (List.forall₂_same.mpr fun _ _ => ?_) rfl
      exact ⟨rfl, rfl, id, rfl, rfl⟩
    | createView decl =>
      exact .view rfl rfl (decl.query.renamed_refl true Renaming.still_nil Renaming.still_nil)
    | select _ | insert _ _ | update _ _ _ | delete _ _ _ | other _ => exact .none rfl rfl

end Sql

namespace Catalog

/-- Where `NOT NULL` is added to columns of the tables the schema is accepted as before, and so is
each query, with the same columns but that more of them are known to be never null. -/
theorem select_tightened {items items' : List ScriptItem}
    (tightened : List.Forall₂ ScriptItem.Tightened items items') {catalog : Catalog}
    (read : ofScript items = .ok catalog) :
    ∃ catalog', ofScript items' = .ok catalog' ∧ ∀ query,
      Together (List.Forall₂ ResultColumn.Tighter) (catalog.select query)
        (catalog'.select query) := by
  have near := ofScript_near (tightened.imp fun _ _ item => item.near) fun _ _ same => .inl same
  obtain ⟨catalog', read', catalogs⟩ := near.of_ok read
  refine ⟨catalog', read', fun query => ?_⟩
  have same := query.renamed_refl (T := .tighter) true Renaming.still_nil Renaming.still_nil
  exact ((catalogs.select same).imp (fun _ _ => id) fun _ _ columns =>
    columns.imp fun _ _ column => column.tighter).together

/-- `CREATE TABLE t(x INTEGER)` with further options for the column. -/
def tableOfColumn (options : List ColumnOption) : TableSyntax :=
  ⟨"t", [⟨"x", some "INTEGER", options⟩], [], false, false⟩

def looseTable : TableDecl := ⟨"t", [⟨"x", some "INTEGER", false, false, none⟩], false⟩

def tightTable : TableDecl := ⟨"t", [⟨"x", some "INTEGER", true, false, none⟩], false⟩

/-- The table and a view of it. -/
def tableThenView (decl : TableDecl) : List ScriptItem :=
  [⟨"", .createTable decl, [], [], []⟩, ⟨"", .createView ⟨"v", ["y"], selectAll "t"⟩, [], [], []⟩]

/-- Whether the columns of a table or view are never null, if the schema is accepted. -/
def filled (items : List ScriptItem) (name : String) : Option (List Bool) :=
  match ofScript items with
  | .ok catalog =>
    match catalog.select (selectAll name) with
    | .ok columns => some (columns.map ResultColumn.notNull)
    | .error _ => none
  | .error _ => none

theorem select_tightened_view :
    TableDecl.ofSyntax? (tableOfColumn []) = some looseTable ∧
    TableDecl.ofSyntax? (tableOfColumn [.notNull]) = some tightTable ∧
    filled (tableThenView looseTable) "v" = some [false] ∧
    filled (tableThenView tightTable) "v" = some [true] ∧
    ∃ catalog catalog', ofScript (tableThenView looseTable) = .ok catalog ∧
      ofScript (tableThenView tightTable) = .ok catalog' ∧
      Together (List.Forall₂ ResultColumn.Tighter) (catalog.select (selectAll "v"))
        (catalog'.select (selectAll "v")) := by
  have extended : (tableOfColumn []).Extended (tableOfColumn [.notNull]) :=
    ⟨rfl, .cons ⟨rfl, rfl, .add .nil⟩ .nil, rfl, rfl, rfl⟩
  have loose : TableDecl.ofSyntax? (tableOfColumn []) = some looseTable := rfl
  obtain ⟨decl, tight, tightened⟩ := TableDecl.ofSyntax?_tightened extended loose
  obtain rfl : tightTable = decl := Option.some.inj tight
  have shown : filled (tableThenView looseTable) "v" = some [false] := by decide +kernel
  refine ⟨loose, tight, shown, by decide +kernel, ?_⟩
  cases read : ofScript (tableThenView looseTable) with
  | error e =>
    rw [filled, read] at shown
    cases shown
  | ok catalog =>
    have items : List.Forall₂ ScriptItem.Tightened (tableThenView looseTable)
        (tableThenView tightTable) :=
      .cons (.table rfl rfl rfl tightened) (.cons (.same _) .nil)
    obtain ⟨catalog', read', selected⟩ := select_tightened items read
    exact ⟨catalog, catalog', rfl, read', selected _⟩

end Catalog

end TypedRows
