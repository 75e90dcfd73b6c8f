import TypedRows.Proofs.CollectionKeys
import TypedRows.Proofs.ProjectedColumns
import TypedRows.Proofs.ReferenceNames
import TypedRows.Proofs.ResultFields

/-! From which entries of `FROM` the columns of a nested value come. A mapping takes the columns of
the entry that it names. But it takes the columns of another entry as well if that reads them under
the same name inside, or if its reference name stands for that name anywhere in the query. -/

namespace TypedRows

open Sql

mutual

/-- The only `SELECT` of a query that is not compound, perhaps in parentheses. -/
def Sql.Query.soleSelect? : Query → Option Select
  | ⟨_, _, body, _, _, _, _⟩ => body.soleSelect?

def Sql.Body.soleSelect? : Body → Option Select
  | .select select => some select
  | .query query => query.soleSelect?
  | .compound .. | .values .. | .table _ | .insert _ | .update _ | .store .. => none

end

mutual

theorem Sql.Query.exists_sole (query : Query) {select : Select} {catalog : Catalog}
    (sole : query.soleSelect? = some select) (ctes : Ctes) (allMembers : Bool)
    {columns : List ResultColumn} (found : query.columnsIn catalog ctes allMembers = .ok columns) :
    ∃ inner, select.columnsIn catalog inner = .ok columns := by
  obtain ⟨_, list, body, _, _, _, _⟩ := query
  rw [Query.soleSelect?] at sole
  rw [Query.columnsIn] at found
  obtain ⟨inner, _, found⟩ := bind_eq_ok found
  exact body.exists_sole sole inner allMembers found

theorem Sql.Body.exists_sole (body : Body) {select : Select} {catalog : Catalog}
    (sole : body.soleSelect? = some select) (ctes : Ctes) (allMembers : Bool)
    {columns : List ResultColumn} (found : body.columnsIn catalog ctes allMembers = .ok columns) :
    ∃ inner, select.columnsIn catalog inner = .ok columns := by
  cases body with
  | select own =>
    cases sole
    exact ⟨ctes, found⟩
  | query query => exact query.exists_sole sole ctes allMembers found
  | compound | values | table | insert | update | store => cases sole

end

/-- The column comes from no entry: it is computed, or only its name is known. -/
def ResultColumn.IsLoose (column : ResultColumn) : Prop :=
  column.tableAlias = none ∧ column.aliasPath = []

/-- The column is a column of the source, under whatever name, or the row number. It is `inner` that
the source reads it from. -/
structure Source.Shows (source : Source) (column : ResultColumn) (inner : List String) : Prop where
  tableAlias : column.tableAlias = source.reference
  aliasPath : column.aliasPath = source.reference.toList ++ inner
  within : inner ∈ [] :: source.columns.map ResultColumn.aliasPath

/-- The columns of the source with these names inside are taken for columns of `name`. -/
def Source.Mistaken (source : Source) (aliases : OrderedMap String String) (name : String)
    (inner : List String) : Prop :=
  (∃ reference ∈ inner, Text.sameName reference name = true) ∨
    ∃ reference ∈ source.reference, ∃ entry ∈ aliases.entries,
      Text.sameName entry.1 reference = true ∧ Text.sameName entry.2 name = true

section Shown

variable {catalog : Catalog} {ctes : Ctes} {sources : List Source} {column : ResultColumn}

/-- The column is shown by one of the sources, or comes from none. -/
def Shown (sources : List Source) (column : ResultColumn) : Prop :=
  column.IsLoose ∨ ∃ source ∈ sources, ∃ inner, source.Shows column inner

theorem shown_own {source : Source}
    (inside : source ∈ (Scope.ofSources catalog ctes sources).sources)
    (own : column ∈ source.columns) : Shown sources column := by
  obtain ⟨before, member, rfl⟩ := List.mem_map.mp inside
  obtain ⟨plain, there, rfl⟩ := List.mem_map.mp own
  exact .inr ⟨before, member, plain.aliasPath, rfl, rfl,
    List.mem_cons_of_mem _ (List.mem_map_of_mem there)⟩

theorem shown_rowid {source : Source} {name : String}
    (inside : source ∈ (Scope.ofSources catalog ctes sources).sources)
    (row : (Scope.ofSources catalog ctes sources).rowid? source name = some column) :
    Shown sources column := by
  obtain ⟨before, member, rfl⟩ := List.mem_map.mp inside
  obtain ⟨_, _, _, rfl⟩ := Scope.rowid?_eq_some row
  exact .inr ⟨before, member, [], rfl, (List.append_nil _).symm, List.mem_cons_self⟩

theorem shown_unknown (name : String) : Shown sources (.unknown name) := .inl ⟨rfl, rfl⟩

theorem shown_label (shown : Shown sources column) (name : String) :
    Shown sources { column with name } :=
  shown.imp id fun ⟨source, inside, inner, tableAlias, aliasPath, within⟩ =>
    ⟨source, inside, inner, tableAlias, aliasPath, within⟩

theorem shown_column {ref : ColumnRef}
    (found : (Scope.ofSources catalog ctes sources).column ref = .ok column) :
    Shown sources column := by
  obtain ⟨table | table, name⟩ := ref
  · obtain ⟨source, others, first⟩ | ⟨_, ⟨_, rfl⟩ | ⟨only, alone, _, row⟩⟩ :=
      Scope.unqualified_eq_ok found
    · obtain ⟨inside, own, _⟩ := Scope.mem_candidates.mp (first ▸ List.mem_cons_self)
      exact shown_own inside own
    · exact shown_unknown name
    · exact shown_rowid (alone ▸ List.mem_cons_self) row
  · obtain ⟨source, named, ⟨_, rfl⟩ | ⟨_, own | ⟨_, row⟩⟩⟩ := Scope.qualified_eq_ok found
    · exact shown_unknown name
    · exact shown_own (List.mem_of_find?_eq_some named) (List.mem_of_find?_eq_some own)
    · exact shown_rowid (List.mem_of_find?_eq_some named) row

theorem shown_item (item : Item) {columns : List ResultColumn}
    (found : item.columnsIn (.ofSources catalog ctes sources) = .ok columns) :
    ∀ column ∈ columns, Shown sources column := by
  intro column member
  cases plain : item.isPlain with
  | true =>
    obtain ⟨source, projects⟩ := (Item.mem_columnsIn_iff plain found).mp member
    cases projects with
    | star inside shown => exact shown_own inside (List.mem_filter.mp shown).1
    | starOf named own => exact shown_own (List.mem_of_find?_eq_some named) own
    | @column label _ _ _ _ _ _ read =>
      cases label with
      | none => exact shown_column read
      | some label => exact shown_label (shown_column read) label.text
  | false =>
    cases item with
    | star => cases plain
    | expr label e =>
      have computed : e.columnRef? = none := by simpa [Item.isPlain] using plain
      unfold Item.columnsIn at found
      dsimp only at found
      rw [computed] at found
      cases found
      rw [List.mem_singleton.mp member]
      exact .inl ⟨rfl, rfl⟩

theorem shown_items (items : List Item) {columns : List ResultColumn}
    (found : columnsOfItems items (.ofSources catalog ctes sources) = .ok columns) :
    ∀ column ∈ columns, Shown sources column := by
  induction items generalizing columns with
  | nil =>
    rw [columnsOfItems] at found
    cases found
    exact nofun
  | cons item rest ih =>
    rw [columnsOfItems] at found
    obtain ⟨first, own, found⟩ := bind_eq_ok found
    obtain ⟨others, later, found⟩ := bind_eq_ok found
    cases found
    exact List.forall_mem_append.mpr ⟨shown_item item own, ih later⟩

end Shown

namespace Mapping

variable {mapping : Mapping} {aliases : OrderedMap String String} {field : Field} {source : Source}
  {inner : List String}

def fits (mapping : Mapping) (field : Field) : Bool :=
  !field.isDynamic && (mapping.strip? field.name).isSome

theorem takes_eq : mapping.takes aliases field =
    (mapping.fits field && mapping.isSourceOf aliases field) := by
  rw [takes, fits, Bool.and_right_comm]

theorem isSourceOf_of_isLoose (loose : field.source.IsLoose) :
    mapping.isSourceOf aliases field = false := by
  rw [isSourceOf, loose.1, loose.2]
  rfl

/-- A field comes from the source of the mapping if it is shown by an entry of that name, or is
mistaken for it. -/
theorem isSourceOf_iff (shows' : source.Shows field.source inner) :
    mapping.isSourceOf aliases field = true ↔
      source.hasName mapping.sourceTable = true ∨
        source.Mistaken aliases mapping.sourceTable inner := by
  rw [isSourceOf, shows'.tableAlias, shows'.aliasPath, Source.hasName, Source.Mistaken]
  cases source.reference with
  | none => simp
  | some reference =>
    simp only [Option.toList_some, List.singleton_append, List.any_cons, Bool.or_eq_true,
      List.any_eq_true, Bool.and_eq_true, Option.mem_some_iff, exists_eq_left']
    exact or_or_distrib_left.symm

end Mapping

namespace TypedStatement

variable {context : Context} {place : Place} {item : ScriptItem} {statement : TypedStatement}
  {query : Query} {select : Select}

/-- Each field with a mapping has its nested value. -/
theorem exists_gathers (h : analyse context place item = .ok statement) {field : Field}
    (member : field ∈ statement.fields) {mapping : Mapping}
    (mapped : field.overrides.mapping = some mapping) :
    ∃ n ∈ statement.nested, n.fieldName = field.name ∧
      NestedField.Gathers statement.overrides statement.fields statement.aliases mapping n := by
  obtain ⟨_, _, columns, dynamic, _, _, _, _, folded, settled⟩ := analyse_parts h
  rw [settled] at member
  obtain ⟨plain, inside, rfl⟩ := List.mem_map.mp member
  rw [settle_overrides] at mapped
  have kept : plain ∈ (columns ++ dynamic).filter fun f => f.overrides.mapping.isSome :=
    List.mem_filter.mpr ⟨inside, by rw [mapped]; rfl⟩
  obtain ⟨n, there, own, _, _, mapped', made⟩ :=
    exists_of_mem_left (NestedField.made_of_ofFields folded) kept
  cases mapped.symm.trans mapped'
  refine ⟨n, there, ?_, settled ▸ gathers_settle _ (NestedField.ofMapping_gathers made)⟩
  rw [settle_name, (NestedField.ofMapping_folds made).fieldName]

/-- The fields of a statement without compound are shown by the entries of its `FROM` clause, or
come from none. -/
theorem exists_shown (selected : item.statement = .select query)
    (sole : query.soleSelect? = some select) (h : analyse context place item = .ok statement) :
    ∃ ctes sources, context.catalog.select query = select.columnsIn context.catalog ctes ∧
      sourcesOf select.sources context.catalog ctes [] = .ok sources ∧
      ∀ field ∈ statement.fields, Shown sources field.source := by
  obtain ⟨shape, _, columns, dynamic, shaped, _, first, added, _, settled⟩ := analyse_parts h
  rw [selected] at shaped
  obtain ⟨results, found, shaped⟩ := bind_eq_ok shaped
  cases shaped
  have found := mapError_eq_ok.mp found
  obtain ⟨ctes, same⟩ := query.exists_sole sole [] true found
  obtain ⟨_, items, _, entries, _, _, _, _, _, _, _⟩ := select
  obtain ⟨sources, joined, listed⟩ := bind_eq_ok (Select.columnsIn.eq_def _ _ _ ▸ same)
  refine ⟨ctes, sources, found.trans same.symm, joined, fun field member => ?_⟩
  rw [settled] at member
  obtain ⟨plain, inside, rfl⟩ := List.mem_map.mp member
  rw [settle_source]
  obtain column | other := List.mem_append.mp inside
  · obtain ⟨result, own, made⟩ := exists_of_mem_right (columnFields_eq_ok first) column
    rw [(Field.ofColumn_eq_ok made).2.1]
    exact shown_items items listed result own
  · obtain ⟨entry, _, made⟩ := exists_of_mem_right (mapM_eq_ok added) other
    rw [dynamicField] at made
    split at made
    · cases made
    · rw [(Field.ofAnnotations_eq_ok (mapError_eq_ok.mp made)).2.1]
      exact shown_unknown _

theorem mem_columns_iff (h : analyse context place item = .ok statement) {mapping : Mapping}
    {n : NestedField} (gathers : NestedField.Gathers statement.overrides statement.fields
      statement.aliases mapping n) {f : Field} (member : f ∈ statement.fields) :
    f.name ∈ n.columns.map NestedColumn.column ↔ mapping.takes statement.aliases f = true := by
  have names : n.columns.map NestedColumn.column =
      (mapping.taken statement.aliases statement.fields).map Field.name := by
    rw [gathers.columns, List.map_map]
    rfl
  rw [names]
  constructor
  · intro inside
    obtain ⟨g, taken, same⟩ := List.mem_map.mp inside
    obtain ⟨there, takes⟩ := List.mem_filter.mp taken
    rwa [← List.inj_on_of_nodup_map (names_distinct h) there member same]
  · exact fun takes => List.mem_map_of_mem (List.mem_filter.mpr ⟨member, takes⟩)

/-- The columns of a nested value are those of the entries with the name of its source, and those
that are mistaken for them. So they all have that name as their own just if none is mistaken. -/
theorem analyse_folded (selected : item.statement = .select query)
    (sole : query.soleSelect? = some select) (h : analyse context place item = .ok statement) :
    ∃ ctes sources, context.catalog.select query = select.columnsIn context.catalog ctes ∧
      sourcesOf select.sources context.catalog ctes [] = .ok sources ∧
      (∀ field ∈ statement.fields, Shown sources field.source) ∧
      ∀ field ∈ statement.fields, ∀ mapping, field.overrides.mapping = some mapping →
        ∃ n ∈ statement.nested, n.fieldName = field.name ∧
          (∀ f ∈ statement.fields, f.name ∈ n.columns.map NestedColumn.column ↔
            mapping.fits f = true ∧ ∃ source ∈ sources, ∃ inner, source.Shows f.source inner ∧
              (source.hasName mapping.sourceTable = true ∨
                source.Mistaken statement.aliases mapping.sourceTable inner)) ∧
          ((∀ f ∈ statement.fields, f.name ∈ n.columns.map NestedColumn.column →
              ∃ reference ∈ f.source.tableAlias,
                Text.sameName reference mapping.sourceTable = true) ↔
            ∀ f ∈ statement.fields, mapping.fits f = true →
              ∀ source ∈ sources, ∀ inner, source.Shows f.source inner →
                source.hasName mapping.sourceTable = false →
                ¬source.Mistaken statement.aliases mapping.sourceTable inner) := by
  obtain ⟨ctes, sources, same, joined, shown⟩ := exists_shown selected sole h
  refine ⟨ctes, sources, same, joined, shown, fun field member mapping mapped => ?_⟩
  obtain ⟨n, inside, named, gathers⟩ := exists_gathers h member mapped
  have inner : ∀ f ∈ statement.fields, f.name ∈ n.columns.map NestedColumn.column ↔
      mapping.fits f = true ∧ ∃ source ∈ sources, ∃ inner, source.Shows f.source inner ∧
        (source.hasName mapping.sourceTable = true ∨
          source.Mistaken statement.aliases mapping.sourceTable inner) := by
    intro f own
    rw [mem_columns_iff h gathers own, Mapping.takes_eq, Bool.and_eq_true]
    refine and_congr_right fun _ => ⟨fun comes => ?_, ?_⟩
    · obtain loose | ⟨source, there, inner, shows'⟩ := shown f own
      · cases (Mapping.isSourceOf_of_isLoose loose).symm.trans comes
      · exact ⟨source, there, inner, shows', (Mapping.isSourceOf_iff shows').mp comes⟩
    · rintro ⟨source, _, inner, shows', comes⟩
      exact (Mapping.isSourceOf_iff shows').mpr comes
  refine ⟨n, inside, named, inner, fun all f own fits source there path shows' other mistaken => ?_,
    fun none' f own taken => ?_⟩
  · obtain ⟨reference, given, alike⟩ :=
      all f own ((inner f own).mpr ⟨fits, source, there, path, shows', .inr mistaken⟩)
    have own' : source.hasName mapping.sourceTable = true :=
      Source.hasName_iff.mpr ⟨reference, shows'.tableAlias ▸ given, alike⟩
    cases own'.symm.trans other
  · obtain ⟨fits, source, there, path, shows', comes⟩ := (inner f own).mp taken
    have own' : source.hasName mapping.sourceTable = true := by
      by_contra other
      exact none' f own fits source there path shows' (eq_false_of_ne_true other)
        (comes.resolve_left other)
    obtain ⟨reference, given, alike⟩ := Source.hasName_iff.mp own'
    exact ⟨reference, shows'.tableAlias.trans given, alike⟩

/-- `SELECT * FROM pet AS r, (SELECT * FROM person AS r) AS s` -/
def reusedInside : Query :=
  .allOf [Query.tableAs "pet" "r",
    ⟨false, .comma, .derived false (.allOf [Query.tableAs "person" "r"] none)
      (some ⟨⟨"s", none⟩, []⟩), none, .none⟩] none

def foldedSchema : List ScriptItem :=
  [⟨"", .createTable ⟨"pet", [⟨"pet_id", some "INTEGER", true, false, none⟩], false⟩, [], [], []⟩,
    ⟨"", .createTable ⟨"person", [⟨"id", some "INTEGER", true, false, none⟩], false⟩, [], [], []⟩]

def foldedItem : ScriptItem :=
  ⟨"", .select reusedInside,
    ["@@\x7bdynamicField=d, mappingType=perRow, sourceTable=r, propertyType=T\x7d"], [], []⟩

/-- The column of `s` is folded into the value of `r`, as `s` reads it under that name inside. -/
theorem analyse_folded_reused : ∃ catalog statement n,
    Catalog.ofScript foldedSchema = .ok catalog ∧
    analyse (.ofCatalog catalog .initial) ⟨"q", "n", ""⟩ foldedItem = .ok statement ∧
    statement.fields.map (fun f => (f.name, f.source.tableAlias, f.overrides.mapping)) =
      [("pet_id", some "r", none), ("id", some "s", none),
        ("d", none, some ⟨.perRow, "r", none, none⟩)] ∧
    n ∈ statement.nested ∧ n.fieldName = "d" ∧
    n.columns.map NestedColumn.column = ["pet_id", "id"] ∧
    ∃ f ∈ statement.fields, ∃ source inner, Source.Shows source f.source inner ∧
      source.hasName "r" = false ∧ source.Mistaken statement.aliases "r" inner := by
  have computed : (do
      let catalog ← (Catalog.ofScript foldedSchema).toOption
      let statement ← (analyse (.ofCatalog catalog .initial) ⟨"q", "n", ""⟩ foldedItem).toOption
      some (statement.fields.map (fun f => (f.name, f.source.tableAlias, f.overrides.mapping)),
        statement.nested.map fun n => n.columns.map NestedColumn.column)) =
      some ([("pet_id", some "r", none), ("id", some "s", none),
        ("d", none, some ⟨.perRow, "r", none, none⟩)], [["pet_id", "id"]]) := by
    decide +kernel
  obtain ⟨catalog, statement, read, analysed, computed⟩ := exists_evaluated computed
  obtain ⟨fields, nested⟩ := Prod.mk.inj computed
  obtain ⟨ctes, sources, _, _, _, each⟩ := analyse_folded rfl rfl analysed
  obtain ⟨d, member, isD⟩ := List.mem_map.mp (fields ▸ List.mem_cons_of_mem _
    (List.mem_cons_of_mem _ List.mem_cons_self) : _ ∈ statement.fields.map _)
  obtain ⟨id, own, isId⟩ := List.mem_map.mp (fields ▸ List.mem_cons_of_mem _
    List.mem_cons_self : _ ∈ statement.fields.map _)
  simp only [Prod.mk.injEq] at isD isId
  obtain ⟨n, inside, named, _, only⟩ := each d member _ isD.2.2
  have columns : n.columns.map NestedColumn.column = ["pet_id", "id"] := by
    have there := List.mem_map_of_mem (f := fun n => n.columns.map NestedColumn.column) inside
    rw [nested] at there
    exact List.mem_singleton.mp there
  -- the column `id` is within the value, but it is not shown under the name `r`
  have other : ¬∀ f ∈ statement.fields, f.name ∈ n.columns.map NestedColumn.column →
      ∃ reference ∈ f.source.tableAlias, Text.sameName reference "r" = true := by
    intro all
    obtain ⟨reference, given, alike⟩ := all id own (by rw [columns, isId.1]; decide)
    rw [isId.2.1] at given
    cases given
    exact absurd alike (by decide +kernel)
  rw [only] at other
  push Not at other
  obtain ⟨f, inside', _, source, _, inner, shows', apart, mistaken⟩ := other
  exact ⟨catalog, statement, n, read, analysed, fields, inside, named.trans isD.1, columns, f,
    inside', source, inner, shows', apart, mistaken⟩

end TypedStatement

end TypedRows
