import TypedRows.Proofs.NestedPartition
import TypedRows.Proofs.ResultFields

/-! What a `RETURNING` clause may say: `*`, or columns of the changed table, alone or after its name
or its alias, and under their own names. A name before that of the table is not looked at. -/

namespace TypedRows

open Sql

/-- The table or view of a name, and its columns, each with whether it may not be null. -/
def Catalog.declared? (catalog : Catalog) (name : String) :
    Option (String × List (String × Bool)) :=
  match catalog.table? name with
  | some table => some (table.name, table.columns.map fun c => (c.name, c.notNull))
  | none => (catalog.view? name).map fun view =>
    (view.name, view.columns.map fun c => (c.name, c.notNull))

/-- The table that a statement changes, and what it returns. -/
def Sql.Statement.change? : Statement → Option (Changed × List Item)
  | .insert _ change => some (⟨change.table.base, none⟩, change.returning)
  | .update _ changed change => some (changed, change.returning)
  | .delete changed _ returning => some (changed, returning)
  | .createTable _ | .createView _ | .select _ | .other _ => none

/-- The name is that of the table or its alias. -/
def Sql.Changed.Means (changed : Changed) (name : String) : Prop :=
  Text.sameName name changed.table = true ∨
    ∃ a, changed.aliasName = some a ∧ Text.sameName a name = true

structure ResultColumn.Declares (changed : Changed) (object : String) (declared : String × Bool)
    (column : ResultColumn) : Prop where
  name : column.name = declared.1
  origin : column.origin = some ⟨object, declared.1⟩
  notNull : column.notNull = declared.2
  declaredNotNull : column.declaredNotNull = declared.2
  joinedNullable : column.joinedNullable = false
  tableAlias : column.tableAlias = some changed.reference
  aliasPath : column.aliasPath = [changed.reference]

/-- The columns that an item stands for, among those of the changed table. -/
inductive Sql.Item.Returns (changed : Changed) (columns : List ResultColumn) :
    Item → List ResultColumn → Prop where
  | star {label : Option Ident} : Returns changed columns (.star label []) columns
  | starOf {label : Option Ident} {before : Path} {table : Ident} (own : changed.Means table.text) :
    Returns changed columns (.star label (before ++ [table])) columns
  | column {before : Path} {name : Ident} {column : ResultColumn}
    (own : ∀ table ∈ before.getLast?, changed.Means table.text)
    (found : (columns.find? fun c => Text.sameName c.name name.text) = some column) :
    Returns changed columns (.expr none (.column (before ++ [name]))) [column]

/-- How many names stand before the star or the name of the column. -/
def Sql.Item.qualifiers : Item → Nat
  | .star _ path => path.length
  | .expr _ (.column path) => path.length - 1
  | .expr _ _ => 0

/-- The item is `*` or a column, alone or after one name. -/
def Sql.Item.IsBare (changed : Changed) (columns : List ResultColumn) (item : Item) : Prop :=
  item.qualifiers ≤ 1 ∧ ∃ own, item.Returns changed columns own

inductive Sql.Item.Refused (statement : String) (changed : Changed) (columns : List ResultColumn) :
    Item → Error → Prop where
  | otherStar {label : Option Ident} {before : Path} {table : Ident}
    (other : ¬ changed.Means table.text) :
    Refused statement changed columns (.star label (before ++ [table]))
      (.returning statement (.otherStar table.text))
  | aliased {label : Ident} {e : Expr} :
    Refused statement changed columns (.expr (some label) e)
      (.returning statement (.aliased (Item.print (.expr (some label) e))))
  | computed {e : Expr} (computed : ∀ before name, e ≠ .column (before ++ [name])) :
    Refused statement changed columns (.expr none e) (.returning statement (.notColumn e.print))
  | otherTable {before : Path} {table name : Ident} (other : ¬ changed.Means table.text) :
    Refused statement changed columns (.expr none (.column (before ++ [table, name])))
      (.returning statement (.otherColumn table.text name.text))
  | missing {before : Path} {name : Ident}
    (own : ∀ table ∈ before.getLast?, changed.Means table.text)
    (missing : ∀ column ∈ columns, Text.sameName column.name name.text = false) :
    Refused statement changed columns (.expr none (.column (before ++ [name])))
      (.resolve (.noReturnedColumn name.text changed.table))

theorem Sql.Changed.hasName_iff {changed : Changed} {name : String} :
    changed.hasName name = true ↔ changed.Means name := by
  unfold Changed.hasName Changed.Means
  cases changed.aliasName with
  | none => simp
  | some a => simp

theorem Sql.ColumnRef.ofPath?_concat (before : Path) (name : Ident) :
    ofPath? (before ++ [name]) = some ⟨before.getLast?.map Ident.text, name.text⟩ := by
  obtain rfl | ⟨outer, table, rfl⟩ := before.eq_nil_or_concat'
  · rfl
  · rw [List.getLast?_concat, ofPath?, List.reverse_concat, List.reverse_concat]
    rfl

namespace Shape

variable {catalog : Catalog} {statement : String} {changed : Changed}
  {columns own : List ResultColumn} {item : Item} {items : List Item}

theorem returned_star (label : Option Ident) (before : Path) (table : Ident) :
    returned statement changed columns (.star label (before ++ [table])) =
      if changed.hasName table.text then .ok columns
      else .error (.returning statement (.otherStar table.text)) := by
  have base : Path.base (before ++ [table]) = table.text := by rw [Path.base, List.getLast?_concat]
  obtain ⟨first, rest, parts⟩ := List.exists_cons_of_ne_nil (l := before ++ [table]) (by simp)
  rw [parts] at base ⊢
  rw [returned, base]
  exact List.cons_ne_nil first rest

theorem returned_column (before : Path) (name : Ident)
    (own : ∀ table ∈ before.getLast?, changed.Means table.text) :
    returned statement changed columns (.expr none (.column (before ++ [name]))) =
      (columns.find? fun c => Text.sameName c.name name.text).elim
        (.error (.resolve (.noReturnedColumn name.text changed.table))) fun column =>
          .ok [column] := by
  have kept : (before.getLast?.map Ident.text).filter (fun table => !changed.hasName table) =
      none := by
    rw [Option.filter_eq_none_iff]
    intro table given
    obtain ⟨part, last, rfl⟩ := Option.map_eq_some_iff.mp given
    rw [Changed.hasName_iff.mpr (own part last)]
    exact Bool.false_ne_true
  rw [returned, Expr.columnRef?, ColumnRef.ofPath?_concat]
  dsimp only
  rw [kept]
  cases columns.find? fun c => Text.sameName c.name name.text <;> rfl

theorem returned_of_returns (h : item.Returns changed columns own) :
    returned statement changed columns item = .ok own := by
  cases h with
  | star => rfl
  | starOf means => rw [returned_star, if_pos (Changed.hasName_iff.mpr means)]
  | column means found => rw [returned_column _ _ means, found, Option.elim_some]

theorem returned_of_refused {e : Error} (h : item.Refused statement changed columns e) :
    returned statement changed columns item = .error e := by
  cases h with
  | otherStar other => rw [returned_star, if_neg (Changed.hasName_iff.not.mpr other)]
  | aliased => rfl
  | @computed e computed =>
    have none' : e.columnRef? = none := by
      cases e with
      | column path =>
        obtain rfl | ⟨before, name, rfl⟩ := path.eq_nil_or_concat'
        · rfl
        · exact absurd rfl (computed before name)
      | _ => rfl
    rw [returned, none']
  | @otherTable before table name other =>
    have parts : before ++ [table, name] = (before ++ [table]) ++ [name] := by simp
    have stays : (some table.text).filter (fun name => !changed.hasName name) =
        some table.text := by
      rw [Option.filter_some_pos]
      rw [Bool.eq_false_iff.mpr (Changed.hasName_iff.not.mpr other), Bool.not_false]
    rw [parts, returned, Expr.columnRef?, ColumnRef.ofPath?_concat, List.getLast?_concat, Option.map_some]
    dsimp only
    rw [stays]
  | missing means missing =>
    have none' := List.find?_eq_none.mpr fun c inside => Bool.eq_false_iff.mp (missing c inside)
    rw [returned_column _ _ means, none', Option.elim_none]

theorem returns_or_refused (statement : String) (changed : Changed) (columns : List ResultColumn)
    (item : Item) : (∃ own, item.Returns changed columns own) ∨
      ∃ e, item.Refused statement changed columns e := by
  cases item with
  | star label path =>
    obtain rfl | ⟨before, table, rfl⟩ := path.eq_nil_or_concat'
    · exact .inl ⟨_, .star⟩
    · by_cases means : changed.Means table.text
      · exact .inl ⟨_, .starOf means⟩
      · exact .inr ⟨_, .otherStar means⟩
  | expr label e =>
    cases label with
    | some label => exact .inr ⟨_, .aliased⟩
    | none =>
      by_cases plain : ∃ before name, e = .column (before ++ [name])
      · obtain ⟨before, name, rfl⟩ := plain
        by_cases own : ∀ table ∈ before.getLast?, changed.Means table.text
        · cases found : columns.find? fun c => Text.sameName c.name name.text with
          | some column => exact .inl ⟨_, .column own found⟩
          | none =>
            rw [List.find?_eq_none] at found
            exact .inr ⟨_, .missing own fun c inside => Bool.eq_false_iff.mpr (found c inside)⟩
        · push Not at own
          obtain ⟨table, last, other⟩ := own
          obtain ⟨outer, rfl⟩ := List.getLast?_eq_some_iff.mp last
          rw [List.append_assoc]
          exact .inr ⟨_, .otherTable other⟩
      · exact .inr ⟨_, .computed fun before name same => plain ⟨before, name, same⟩⟩

theorem returned_eq_ok_iff :
    returned statement changed columns item = .ok own ↔ item.Returns changed columns own := by
  refine ⟨fun made => ?_, returned_of_returns⟩
  obtain ⟨own', returns⟩ | ⟨e, refused⟩ := returns_or_refused statement changed columns item
  · rw [returned_of_returns returns] at made
    cases made
    exact returns
  · rw [returned_of_refused refused] at made
    cases made

theorem returned_eq_error_iff {e : Error} :
    returned statement changed columns item = .error e ↔
      item.Refused statement changed columns e := by
  refine ⟨fun fails => ?_, returned_of_refused⟩
  obtain ⟨own, returns⟩ | ⟨e', refused⟩ := returns_or_refused statement changed columns item
  · rw [returned_of_returns returns] at fails
    cases fails
  · rw [returned_of_refused refused] at fails
    cases fails
    exact refused

theorem targetColumns_of_declared {object : String} {declared : List (String × Bool)}
    (known : catalog.declared? changed.table = some (object, declared)) :
    ∃ columns, targetColumns catalog changed = .ok columns ∧
      List.Forall₂ (ResultColumn.Declares changed object) declared columns := by
  rw [Catalog.declared?] at known
  cases found : catalog.table? changed.table with
  | some table =>
    rw [found] at known
    cases known
    have own : catalog.columns? changed.table = some table.resultColumns := by
      rw [Catalog.columns?, found]
    rw [targetColumns, own]
    refine ⟨_, rfl, ?_⟩
    rw [Table.resultColumns, List.map_map, List.forall₂_map_left_iff, List.forall₂_map_right_iff,
      List.forall₂_same]
    exact fun c _ => ⟨rfl, rfl, rfl, rfl, rfl, rfl, rfl⟩
  | none =>
    rw [found] at known
    obtain ⟨view, viewed, known⟩ := Option.map_eq_some_iff.mp known
    cases known
    have own : catalog.columns? changed.table = some view.resultColumns := by
      rw [Catalog.columns?, found, viewed]
      rfl
    rw [targetColumns, own]
    refine ⟨_, rfl, ?_⟩
    rw [View.resultColumns, List.map_map, List.forall₂_map_left_iff, List.forall₂_map_right_iff,
      List.forall₂_same]
    exact fun c _ => ⟨rfl, rfl, rfl, rfl, rfl, rfl, rfl⟩

section Clause

variable (some' : items ≠ []) (target : targetColumns catalog changed = .ok columns)
include some' target

theorem returning_eq : returning catalog statement changed items =
    List.flatten <$> items.mapM (returned statement changed columns) := by
  rw [returning, if_neg (by simpa using some'), bind_of_ok target, map_eq_pure_bind]

theorem returning_eq_ok_iff {results : List ResultColumn} :
    returning catalog statement changed items = .ok results ↔
      ∃ lists, List.Forall₂ (Item.Returns changed columns) items lists ∧
        results = lists.flatten := by
  have each : ∀ lists, items.mapM (returned statement changed columns) = .ok lists ↔
      List.Forall₂ (Item.Returns changed columns) items lists := by
    intro lists
    have made : items.mapM (returned statement changed columns) = .ok lists ↔
        List.Forall₂ (fun item own => returned statement changed columns item = .ok own) items
          lists := ⟨mapM_eq_ok, mapM_of_forall₂⟩
    simpa only [returned_eq_ok_iff] using made
  rw [returning_eq some' target, map_eq_ok]
  simp only [each, eq_comm]

theorem returning_eq_error_iff {e : Error} :
    returning catalog statement changed items = .error e ↔
      ∃ before bad after, items = before ++ bad :: after ∧
        (∀ item ∈ before, ∃ own, item.Returns changed columns own) ∧
        bad.Refused statement changed columns e := by
  have fails : returning catalog statement changed items = .error e ↔
      items.mapM (returned statement changed columns) = .error e := by
    rw [returning_eq some' target]
    cases items.mapM (returned statement changed columns) with
    | error e' => exact ⟨fun h => by cases h; rfl, fun h => by cases h; rfl⟩
    | ok lists => exact iff_of_false nofun nofun
  rw [fails, mapM_eq_error_iff]
  simp only [returned_eq_ok_iff, returned_eq_error_iff]

end Clause

/-- `CREATE TABLE T(X INTEGER NOT NULL, y TEXT)` -/
def capitalCatalog : Catalog :=
  ⟨.ofList [("t", ⟨"T", [⟨"X", some "INTEGER", true, false, none⟩,
    ⟨"y", some "TEXT", false, false, none⟩], false, .empty, .empty, ""⟩)], .empty⟩

/-- `main.t.y` -/
def schemaName : Item :=
  .expr none (.column [⟨"main", none⟩, ⟨"t", none⟩, ⟨"y", none⟩])

def absentName : Item :=
  .expr none (.column [⟨"z", none⟩])

/-- A column may also come after two names, and a name that is not one of a column is not called
unsupported. -/
theorem returning_schemaName :
    (∀ columns, ¬((∃ results,
        returning capitalCatalog "q" ⟨"t", none⟩ [schemaName] = .ok results) ↔
          ∀ item ∈ [schemaName], item.IsBare ⟨"t", none⟩ columns)) ∧
      ¬∃ fault, returning capitalCatalog "q" ⟨"t", none⟩ [absentName] =
        .error (.returning "q" fault) := by
  constructor
  · have accepted : (returning capitalCatalog "q" ⟨"t", none⟩
        [schemaName]).toOption.isSome = true := by decide +kernel
    obtain ⟨results, made⟩ := Option.isSome_iff_exists.mp accepted
    intro columns same
    obtain ⟨short, _⟩ := same.mp ⟨results, toOption_eq_some.mp made⟩ _ (List.mem_singleton_self _)
    exact absurd short (by decide)
  · rintro ⟨fault, refused⟩
    have absent : (match returning capitalCatalog "q" ⟨"t", none⟩ [absentName] with
      | .error (.resolve (.noReturnedColumn "z" "t")) => true
      | _ => false) = true := by decide +kernel
    rw [refused] at absent
    cases absent

/-- The columns of a statement that changes a table are those that it returns. -/
theorem ofStatement_of_change (catalog : Catalog) (statement : String) {s : Statement}
    (change : s.change? = some (changed, items)) :
    Shape.columns <$> ofStatement catalog statement s =
      returning catalog statement changed items := by
  have columns : ∀ kind sources,
      Shape.columns <$> ofChange catalog statement kind changed sources items =
        returning catalog statement changed items := by
    intro kind sources
    rw [ofChange]
    cases returning catalog statement changed items <;> rfl
  cases s with
  | insert ctes change' =>
    cases change
    exact columns ..
  | update ctes changed' change' =>
    cases change
    exact columns ..
  | delete changed' condition returning' =>
    cases change
    exact columns ..
  | createTable _ | createView _ | select _ | other _ => cases change

end Shape

namespace TypedStatement

/-- What comes back for a statement that is accepted has no column twice. -/
theorem returning_distinct {context : Context} {place : Place} {item : ScriptItem}
    {changed : Changed} {items : List Item} {statement : TypedStatement}
    (change : item.statement.change? = some (changed, items))
    (h : analyse context place item = .ok statement) :
    ∃ results, Shape.returning context.catalog place.name changed items = .ok results ∧
      (results.map fun c => Text.foldLower c.name).Nodup := by
  obtain ⟨shape, comments, columns, dynamic, made, _, fields, _⟩ := analyse_parts h
  have returned := Shape.ofStatement_of_change context.catalog place.name change
  rw [made] at returned
  refine ⟨shape.columns, returned.symm, ?_⟩
  have names := map_eq_of_forall₂ (f := fun c : ResultColumn => Text.foldLower c.name)
    (g := fun f : Field => Text.foldLower f.name) (columnFields_eq_ok fields)
    fun column field made => by rw [ofColumn_name made]
  exact names ▸ (columnFields_distinct fields).1

/-- A `RETURNING` clause is accepted exactly if each of its items is `*` or a column of the changed
table, and then the columns come back in the order of the items, as they are declared. Otherwise the
first item that is neither decides the error. -/
theorem returning_columns {context : Context} {place : Place} {item : ScriptItem}
    {changed : Changed} {items : List Item} {object : String} {declared : List (String × Bool)}
    (change : item.statement.change? = some (changed, items)) (some' : items ≠ [])
    (known : context.catalog.declared? changed.table = some (object, declared)) :
    ∃ columns, List.Forall₂ (ResultColumn.Declares changed object) declared columns ∧
      (∀ results, Shape.returning context.catalog place.name changed items = .ok results ↔
        ∃ lists, List.Forall₂ (Item.Returns changed columns) items lists ∧
          results = lists.flatten) ∧
      (∀ e, Shape.returning context.catalog place.name changed items = .error e ↔
        ∃ before bad after, items = before ++ bad :: after ∧
          (∀ item ∈ before, ∃ own, item.Returns changed columns own) ∧
          bad.Refused place.name changed columns e) ∧
      ∀ statement, analyse context place item = .ok statement →
        ∃ results, Shape.returning context.catalog place.name changed items = .ok results ∧
          (results.map fun c => Text.foldLower c.name).Nodup := by
  obtain ⟨columns, target, declares⟩ := Shape.targetColumns_of_declared known
  exact ⟨columns, declares, fun results => Shape.returning_eq_ok_iff some' target,
    fun e => Shape.returning_eq_error_iff some' target,
    fun statement => returning_distinct change⟩

/-- `A.x` -/
def recasedColumn : Item :=
  .expr none (.column [⟨"A", none⟩, ⟨"x", none⟩])

/-- `DELETE FROM t AS a RETURNING A.x` -/
def recasedDelete : ScriptItem :=
  ⟨"", .delete ⟨"t", some "a"⟩ none [recasedColumn], [], [], []⟩

theorem returning_columns_recased :
    ∃ column, Shape.returning Shape.capitalCatalog "q" ⟨"t", some "a"⟩ [recasedColumn] =
        .ok [column] ∧
      ResultColumn.Declares ⟨"t", some "a"⟩ "T" ("X", true) column := by
  obtain ⟨columns, declares, accepted, -, -⟩ :=
    @returning_columns (.ofCatalog Shape.capitalCatalog .initial) ⟨"q", "n", ""⟩ recasedDelete
      ⟨"t", some "a"⟩ [recasedColumn] "T" [("X", true), ("y", false)] rfl
      (List.cons_ne_nil _ _) (by decide +kernel)
  obtain _ | ⟨own, others⟩ := declares
  rename_i column rest
  refine ⟨column, (accepted [column]).mpr ⟨[[column]], .cons ?_ .nil, rfl⟩, own⟩
  refine @Item.Returns.column _ _ [⟨"A", none⟩] ⟨"x", none⟩ _ ?_ ?_
  · intro table last
    cases last
    exact .inr ⟨"a", rfl, Text.sameName_eq_toList _ _ ▸ by decide⟩
  · have same : Text.sameName "X" "x" = true := Text.sameName_eq_toList _ _ ▸ by decide
    exact List.find?_cons_of_pos (own.name ▸ same)

end TypedStatement

end TypedRows
