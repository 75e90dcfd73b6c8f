import TypedRows.Proofs.ColumnInvariants
import TypedRows.Proofs.ResultFields

/-! The flags that tell whether a column can be null. They agree in every result; but a column that
the schema says is dynamic may be folded, and is then as nullable as what it is folded into. -/

namespace TypedRows

open Sql

namespace ResultColumn

/-- The value is never null if and only if it would not be null if outer joins found their rows, and
no outer join is on the way. -/
def Agrees (column : ResultColumn) : Prop :=
  column.notNull = (column.declaredNotNull && !column.joinedNullable)

theorem Agrees.merge {a b : ResultColumn} (ha : a.Agrees) (hb : b.Agrees) : (merge a b).Agrees := by
  unfold Agrees ResultColumn.merge at *
  dsimp only
  rw [ha, hb]
  simp [Bool.and_assoc, Bool.and_left_comm]

/-- Without outer joins before the source, those of the source itself are all there are. -/
theorem Agrees.seen {column : ResultColumn} (h : column.Agrees) {source : Source}
    (unjoined : source.transparent = false → column.joinedNullable = false) :
    (source.seen column).Agrees := by
  unfold Agrees Source.seen at *
  cases shows : source.transparent with
  | true => simp [h, Bool.and_comm, Bool.and_left_comm]
  | false => simp [h, unjoined shows]

end ResultColumn

/-- The columns of a table or view agree, and do not tell of outer joins inside a view. -/
theorem Catalog.agrees_columns? {catalog : Catalog} {name : String} {columns : List ResultColumn}
    (found : catalog.columns? name = some columns) :
    ∀ column ∈ columns, column.Agrees ∧ column.joinedNullable = false := by
  unfold columns? at found
  split at found
  · cases found
    intro column member
    obtain ⟨declared, _, rfl⟩ := List.mem_map.mp member
    exact ⟨(Bool.and_true _).symm, rfl⟩
  · obtain ⟨view, _, rfl⟩ := Option.map_eq_some_iff.mp found
    intro column member
    obtain ⟨stored, _, rfl⟩ := List.mem_map.mp member
    exact ⟨(Bool.and_true _).symm, rfl⟩

/-- Each step from the catalog to a result keeps the flags in agreement. -/
theorem Catalog.keeps_agrees (catalog : Catalog) :
    catalog.Keeps ResultColumn.Agrees fun source => ∀ column ∈ source.columns,
      column.Agrees ∧ (source.transparent = false → column.joinedNullable = false) where
  unknown _ := rfl
  computed _ _ _ := (Bool.and_true _).symm
  renamed _ h := h
  merged := ResultColumn.Agrees.merge
  object _ found column member := by
    obtain ⟨agrees, unjoined⟩ := agrees_columns? found column member
    exact ⟨agrees, fun _ => unjoined⟩
  result _ all column member := ⟨all column member, nofun⟩
  call _ := List.forall_mem_nil _
  joined _ _ h := h
  seen h member := (h _ member).1.seen (h _ member).2
  rowid _ found := by
    obtain ⟨_, _, _, rfl⟩ := Scope.rowid?_eq_some found
    rfl
  target _ found column member := (agrees_columns? found column member).1

/-- An outer join on the way to a column does away with what the schema says of its nulls. If the
statement says nothing either, the query alone decides. -/
theorem Field.ofColumn_unsaid {context : Context} {style : NameStyle} {source : ResultColumn}
    {declared : Option Annotations} {field : Field}
    (h : ofColumn context style source declared = .ok field) (joined : source.joinedNullable = true)
    (unsaid : ∀ own, declared = some own → own.contains Key.notNull = false) :
    field.overrides.notNull = none ∧ field.notNull = source.notNull := by
  obtain ⟨overrides, accepted, h⟩ := bind_eq_ok h
  cases h
  have below : (inherited context source).get? Key.notNull = none := by
    rw [get?_inherited, ResultColumn.inherits, joined]
    rfl
  have nothing : (inForce context source declared).get? Key.notNull = none := by
    cases declared with
    | none => exact below
    | some own =>
      rw [inForce, Annotations.get?_merge_of_ne _ _ (by decide), below,
        OrderedMap.contains_eq_false_iff.mp (unsaid own rfl)]
      rfl
  have read := (FieldOverrides.reads_of_ok accepted).notNull
  rw [Annotations.boolean, nothing] at read
  have none' : overrides.notNull = none := (Except.ok.inj read).symm
  exact ⟨none', by rw [none']; rfl⟩

/-- Only a dynamic field has a mapping. -/
theorem Field.dynamic_of_mapping {context : Context} {style : NameStyle} {source : ResultColumn}
    {declared : Option Annotations} {field : Field}
    (h : ofColumn context style source declared = .ok field) {mapping : Mapping}
    (mapped : field.overrides.mapping = some mapping) : field.isDynamic = true := by
  obtain ⟨overrides, accepted, h⟩ := bind_eq_ok h
  cases h
  exact (FieldOverrides.reads_of_ok accepted).dynamic_of_mapping mapped

namespace TypedStatement

open NestedField

/-- What a mapped field becomes is there in every row: a collection always is, and a single value if
no outer join is on the way to any column that it takes. -/
def AlwaysThere (statement : TypedStatement) (mapping : Mapping) : Prop :=
  mapping.kind = .collection ∨
    ∀ field ∈ mapping.taken statement.aliases statement.fields, field.source.joinedNullable = false

/-- A field that would be nullable by itself is not if and only if what it is folded into is always
there. -/
theorem settle_notNull_iff {overrides : StatementOverrides} {fields : List Field}
    {statement : TypedStatement}
    (folded : ofFields overrides fields statement.aliases = .ok statement.nested)
    (distinct : (fields.map Field.name).Nodup)
    (settled : statement.fields = fields.map (settle statement.nested))
    {field : Field} (member : field ∈ fields) (unsaid : field.overrides.notNull = none)
    (nullable : field.notNull = false) :
    (settle statement.nested field).notNull = true ↔
      ∃ mapping, field.overrides.mapping = some mapping ∧ statement.AlwaysThere mapping := by
  obtain ⟨unmapped, none'⟩ | ⟨mapping, n, mapped, found, folds⟩ :=
    nested?_of_ofFields folded distinct member
  · rw [settle, none', unmapped, nullable]
    simp
  · have joined : ((mapping.taken statement.aliases statement.fields).any
        fun f => f.source.joinedNullable) =
          (mapping.taken statement.aliases fields).any fun f => f.source.joinedNullable := by
      rw [settled, taken_settle, List.any_map]
      simp [Function.comp_def]
    have there : (settle statement.nested field).notNull = n.notNull := by
      rw [settle, found]
    rw [there, folds.notNull, unsaid, ← joined, mapped]
    simp [AlwaysThere]

/-- In every result, and in the columns of every view, a column is never null if and only if it is
so declared and no outer join is on the way. Where one is, and the statement itself does not say
whether the column can be null, its field is nullable whatever the schema says, unless it is dynamic
and what it is folded into is always there. -/
theorem analyse_joinedNullable (context : Context) :
    (∀ query columns, context.catalog.select query = .ok columns →
      ∀ column ∈ columns, column.Agrees) ∧
    (∀ items, Catalog.ofScript items = .ok context.catalog →
      ∀ key view, context.catalog.views.get? key = some view →
        ∀ column ∈ view.columns, column.Agrees) ∧
    ∀ place item statement, analyse context place item = .ok statement →
      ∃ shape comments columns dynamic,
        Shape.ofStatement context.catalog place.name item.statement = .ok shape ∧
        CommentAnnotations.ofComments item.comments = .ok comments ∧
        statement.fields = columns ++ dynamic ∧
        List.Forall₂ (fun column field => field.source = column ∧ column.Agrees ∧
          (column.joinedNullable = true →
            (∀ own, own? comments.fields column.name = some own →
              own.contains Key.notNull = false) →
            (field.notNull = true ↔ field.isDynamic = true ∧
              ∃ mapping, field.overrides.mapping = some mapping ∧ statement.AlwaysThere mapping)))
          shape.columns columns := by
  have keeps := context.catalog.keeps_agrees
  refine ⟨fun query columns found => Catalog.Keeps.query query keeps (List.forall_mem_nil _) found,
    fun items read key view found => keeps.views read found, fun place item statement h => ?_⟩
  obtain ⟨shape, comments, overrides, columns, dynamic, made, read, first, added, folded,
    settled⟩ := analyse_steps h
  have distinct := fields_distinct first added
  have agrees := keeps.statement made
  refine ⟨shape, comments, columns.map (settle statement.nested),
    dynamic.map (settle statement.nested), made, read, settled.trans List.map_append, ?_⟩
  rw [List.forall₂_map_right_iff]
  have ofColumns : List.Forall₂ _ columns shape.columns := (List.forall₂_and_left ..).mpr
    ⟨fun field member => List.mem_append_left dynamic member, (columnFields_eq_ok first).flip⟩
  have each : List.Forall₂ _ shape.columns columns := (List.forall₂_and_left ..).mpr
    ⟨agrees, ofColumns.flip⟩
  refine each.imp fun column field ⟨agree, member, ofColumn⟩ => ?_
  obtain ⟨_, source, _⟩ := Field.ofColumn_eq_ok ofColumn
  refine ⟨by rw [settle_source, source], agree, fun joined unsaid => ?_⟩
  obtain ⟨none', same⟩ := Field.ofColumn_unsaid ofColumn joined unsaid
  have nullable : field.notNull = false := by
    rw [same, agree, joined]
    exact Bool.and_false _
  rw [settle_notNull_iff folded distinct settled member none' nullable, settle_isDynamic,
    settle_overrides]
  refine ⟨fun ⟨mapping, mapped, there⟩ => ⟨?_, mapping, mapped, there⟩, And.right⟩
  exact Field.dynamic_of_mapping ofColumn mapped

/-- A table with a column that is said to stand for rows of another table. -/
def petSchema : List ScriptItem :=
  [⟨"", .createTable ⟨"person", [⟨"pets", some "TEXT", false, false, none⟩], false⟩,
      ["@@\x7bdynamicField=pets, mappingType=perRow, sourceTable=pet, propertyType=Pet\x7d"], [],
      []⟩,
    ⟨"", .createTable ⟨"pet", [⟨"id", some "INTEGER", true, false, none⟩], false⟩, [], [], []⟩]

/-- `SELECT * FROM pet LEFT JOIN person` -/
def petQuery : ScriptItem :=
  ⟨"", .select ⟨false, [], .select ⟨[], [.star none []], "",
    [⟨false, .comma, .table [⟨"pet", none⟩] false none [], none, .none⟩,
      ⟨false, .left, .table [⟨"person", none⟩] false none [], none, .none⟩],
    [], none, false, [], [], none, []⟩, [], none, none, []⟩, [], [], []⟩

theorem exists_pets : ∃ catalog shape statement, Catalog.ofScript petSchema = .ok catalog ∧
    Shape.ofStatement catalog "q" petQuery.statement = .ok shape ∧
    analyse (.ofCatalog catalog .initial) ⟨"q", "n", ""⟩ petQuery = .ok statement ∧
    shape.columns.map ResultColumn.joinedNullable = [false, true] ∧
    statement.fields.map (fun f => (f.name, f.notNull)) = [("id", true), ("pets", true)] := by
  have computed : (do
      let catalog ← (Catalog.ofScript petSchema).toOption
      let shape ← (Shape.ofStatement catalog "q" petQuery.statement).toOption
      let statement ←
        (analyse (.ofCatalog catalog .initial) ⟨"q", "n", ""⟩ petQuery).toOption
      some (shape.columns.map ResultColumn.joinedNullable,
        statement.fields.map fun f => (f.name, f.notNull))) =
      some ([false, true], [("id", true), ("pets", true)]) := by
    decide +kernel
  obtain ⟨catalog, read, computed⟩ := Option.bind_eq_some_iff.mp computed
  obtain ⟨shape, made, computed⟩ := Option.bind_eq_some_iff.mp computed
  obtain ⟨statement, analysed, computed⟩ := Option.bind_eq_some_iff.mp computed
  obtain ⟨flags, fields⟩ := Prod.mk.inj (Option.some.inj computed)
  exact ⟨catalog, shape, statement, toOption_eq_some.mp read, toOption_eq_some.mp made,
    toOption_eq_some.mp analysed, flags, fields⟩

/-- The rows of `pet` are always there, but for a row of `person` there may be none. -/
theorem analyse_joinedNullable_pets : ∃ catalog shape statement,
    Catalog.ofScript petSchema = .ok catalog ∧
    Shape.ofStatement catalog "q" petQuery.statement = .ok shape ∧
    analyse (.ofCatalog catalog .initial) ⟨"q", "n", ""⟩ petQuery = .ok statement ∧
    shape.columns.map ResultColumn.joinedNullable = [false, true] ∧
    statement.fields.map (fun f => (f.name, f.notNull)) = [("id", true), ("pets", true)] ∧
    ∃ field mapping, field ∈ statement.fields ∧ field.name = "pets" ∧ field.isDynamic = true ∧
      field.overrides.mapping = some mapping ∧ statement.AlwaysThere mapping := by
  obtain ⟨catalog, shape, statement, read, made, analysed, flags, fields⟩ := exists_pets
  refine ⟨catalog, shape, statement, read, made, analysed, flags, fields, ?_⟩
  obtain ⟨shape', comments, columns, dynamic, made', said, parts, each⟩ :=
    (analyse_joinedNullable (.ofCatalog catalog .initial)).2.2 _ _ _ analysed
  cases made.symm.trans made'
  cases said
  generalize shape.columns = results at flags each
  rw [parts] at fields
  cases each with
  | nil => simp at flags
  | cons _ each =>
    cases each with
    | nil => simp at flags
    | @cons column field _ _ second _ =>
      obtain ⟨-, joined, -⟩ : _ ∧ column.joinedNullable = true ∧ _ := by simpa using flags
      obtain ⟨-, ⟨name, filled⟩, -⟩ : _ ∧ (field.name = "pets" ∧ field.notNull = true) ∧ _ := by
        simpa using fields
      obtain ⟨dynamic, mapping, mapped, there⟩ := (second.2.2 joined nofun).mp filled
      exact ⟨field, mapping, by simp [parts], name, dynamic, mapped, there⟩

end TypedStatement

end TypedRows
