import TypedRows.Analysis.Shape
import TypedRows.Proofs.UnreadObjects

/-! What every column has that a view or a statement returns. A property is carried from the columns
of the catalog through joins, subqueries and compounds if each single step keeps it. -/

namespace TypedRows

open Sql

/-- Each step from the columns of the catalog to those of a result keeps `P`. A source has `Q` where
its columns are still to be seen through it. -/
structure Catalog.Keeps (catalog : Catalog) (P : ResultColumn → Prop) (Q : Source → Prop) :
    Prop where
  unknown : ∀ name, P (.unknown name)
  computed : ∀ name type text, P (.computed name type text)
  renamed : ∀ {column : ResultColumn} name, P column → P { column with name }
  merged : ∀ {a b}, P a → P b → P (.merge a b)
  object : ∀ {name columns} reference, catalog.columns? name = some columns →
    Q (.unjoined reference (some name) columns false false)
  result : ∀ {columns : List ResultColumn} reference, (∀ column ∈ columns, P column) →
    Q (.unjoined reference none columns true false)
  call : ∀ reference, Q (.ofCall reference)
  joined : ∀ {source : Source} joinedColumns nullable, Q source →
    Q { source with joinedColumns, nullable }
  seen : ∀ {source column}, Q source → column ∈ source.columns → P (source.seen column)
  rowid : ∀ {scope : Scope} {source name column}, scope.catalog = catalog →
    scope.rowid? source name = some column → P column
  target : ∀ {name columns} reference, catalog.columns? name = some columns →
    ∀ column ∈ columns, P { column with
      tableAlias := some reference
      aliasPath := [reference] }

variable {catalog : Catalog} {P : ResultColumn → Prop} {Q : Source → Prop}

namespace ResultColumn

variable {columns other result : List ResultColumn}

theorem renameAll_eq_ok {cte : String} {names : List String}
    (renamed : renameAll cte names columns = .ok result) :
    result = columns ∨ result = rename names columns := by
  unfold renameAll at renamed
  split at renamed
  · exact .inl (Except.ok.inj renamed).symm
  · split at renamed
    · cases renamed
    · exact .inr (Except.ok.inj renamed).symm

theorem mergeAll_eq_ok : mergeAll columns other = .ok result ↔
    columns.length = other.length ∧ List.zipWith merge columns other = result := by
  unfold mergeAll
  split
  · rename_i unequal
    exact ⟨nofun, fun h => absurd h.1 unequal⟩
  · rename_i equal
    exact ⟨fun h => ⟨Decidable.of_not_not equal, Except.ok.inj h⟩, fun h => congrArg Except.ok h.2⟩

end ResultColumn

/-! What stands behind a column that a reference finds. -/

namespace Scope

variable {scope : Scope} {column : ResultColumn}

theorem mem_candidates {name : String} {source : Source} :
    (source, column) ∈ scope.candidates name ↔
      source ∈ scope.sources ∧ column ∈ source.columns ∧ Text.sameName column.name name = true := by
  simp only [candidates, List.mem_flatMap, List.mem_map, List.mem_filter, Prod.mk.injEq]
  constructor
  · rintro ⟨s, member, c, own, rfl, rfl⟩
    exact ⟨member, own⟩
  · rintro ⟨member, own⟩
    exact ⟨source, member, column, own, rfl, rfl⟩

/-- A row number is that of a table, and the same whether the table is joined or not. -/
theorem rowid?_eq_some {source : Source} {name : String}
    (found : scope.rowid? source name = some column) :
    ∃ object table, scope.catalog.table? object = some table ∧ column = {
      name
      tableAlias := source.reference
      aliasPath := source.reference.toList
      origin := some ⟨table.name, name⟩
      sqlType := some "INTEGER"
      notNull := true
      declaredNotNull := true
      joinedNullable := false
      expression := none } := by
  unfold rowid? at found
  split at found
  · split at found
    · rename_i table read
      split at found
      · cases found
      · obtain ⟨object, _, known⟩ := Option.bind_eq_some_iff.mp read
        exact ⟨object, table, known, (Option.some.inj found).symm⟩
    · cases found
  · cases found

theorem qualified_eq_ok {table name : String} (found : scope.qualified table name = .ok column) :
    ∃ source, scope.source? table = some source ∧
      ((source.hidden = true ∧ column = .unknown name) ∨
        (source.hidden = false ∧ (source.column? name = some column ∨
          (source.column? name = none ∧ scope.rowid? source name = some column)))) := by
  unfold qualified at found
  cases named : scope.source? table with
  | none =>
    rw [named] at found
    cases found
  | some source =>
    rw [named] at found
    dsimp only at found
    refine ⟨source, rfl, ?_⟩
    split at found
    · rename_i hidden
      exact .inl ⟨hidden, (Except.ok.inj found).symm⟩
    · rename_i visible
      refine .inr ⟨eq_false_of_ne_true visible, ?_⟩
      cases there : (source.column? name).or (scope.rowid? source name) with
      | none =>
        rw [there] at found
        cases found
      | some given =>
        rw [there] at found
        cases found
        exact Option.or_eq_some_iff.mp there

theorem unqualified_eq_ok {name : String} (found : scope.unqualified name = .ok column) :
    (∃ source others, scope.candidates name = (source, column) :: others) ∨
      (scope.candidates name = [] ∧
        ((scope.sources.any Source.hidden = true ∧ column = .unknown name) ∨
          ∃ only, scope.sources = [only] ∧ only.hidden = false ∧
            scope.rowid? only name = some column)) := by
  unfold unqualified at found
  cases candidates : scope.candidates name with
  | nil =>
    rw [candidates] at found
    dsimp only at found
    refine .inr ⟨rfl, ?_⟩
    split at found
    · rename_i hidden
      exact .inl ⟨hidden, (Except.ok.inj found).symm⟩
    · rename_i visible
      split at found
      · rename_i only alone
        refine .inr ⟨only, alone, by simpa [alone] using visible, ?_⟩
        split at found
        · rename_i row
          exact row.trans (congrArg some (Except.ok.inj found))
        · cases found
      · cases found
  | cons first others =>
    rw [candidates] at found
    dsimp only at found
    split at found
    · cases found
      exact .inl ⟨first.1, others, rfl⟩
    · cases found

end Scope

namespace Catalog.Keeps

section Steps

variable {columns other result : List ResultColumn}

theorem rename (keeps : catalog.Keeps P Q) (all : ∀ column ∈ columns, P column)
    (names : List String) : ∀ column ∈ ResultColumn.rename names columns, P column := by
  induction names generalizing columns with
  | nil => exact all
  | cons name rest ih =>
    cases columns with
    | nil => exact all
    | cons column others =>
      obtain ⟨first, later⟩ := List.forall_mem_cons.mp all
      exact List.forall_mem_cons.mpr ⟨keeps.renamed name first, ih later⟩

theorem renameAll (keeps : catalog.Keeps P Q) (all : ∀ column ∈ columns, P column)
    {cte : String} {names : List String}
    (renamed : ResultColumn.renameAll cte names columns = .ok result) :
    ∀ column ∈ result, P column := by
  obtain rfl | rfl := ResultColumn.renameAll_eq_ok renamed
  · exact all
  · exact keeps.rename all names

theorem mergeAll (keeps : catalog.Keeps P Q) (all : ∀ column ∈ columns, P column)
    (others : ∀ column ∈ other, P column)
    (made : ResultColumn.mergeAll columns other = .ok result) : ∀ column ∈ result, P column := by
  obtain ⟨_, rfl⟩ := ResultColumn.mergeAll_eq_ok.mp made
  intro column member
  rw [← List.map_uncurry_zip_eq_zipWith] at member
  obtain ⟨⟨a, b⟩, pair, rfl⟩ := List.mem_map.mp member
  obtain ⟨left, right⟩ := List.of_mem_zip pair
  exact keeps.merged (all a left) (others b right)

end Steps

section Sources

variable {before : List Source} {source : Source} {columns : List ResultColumn}

theorem join (keeps : catalog.Keeps P Q) (own : Q source) (others : ∀ s ∈ before, Q s)
    (side : Side) (constraint : Constraint) :
    ∀ s ∈ Source.join before side constraint source, Q s := by
  intro s member
  rw [Source.join, List.mem_append, List.mem_singleton] at member
  obtain member | rfl := member
  · split at member
    · obtain ⟨plain, inside, rfl⟩ := List.mem_map.mp member
      exact keeps.joined plain.joinedColumns true (others plain inside)
    · exact others s member
  · exact keeps.joined _ _ own

theorem derived (keeps : catalog.Keeps P Q) (all : ∀ column ∈ columns, P column)
    (aliased : Option Alias) : Q (Source.derived aliased columns) := by
  cases aliased with
  | none => exact keeps.result none all
  | some given => exact keeps.result _ (keeps.rename all _)

theorem named (keeps : catalog.Keeps P Q) {ctes : Ctes}
    (known : ∀ cte ∈ ctes, ∀ column ∈ cte.2, P column) {name : String} {aliased : Option Alias}
    (read : Source.named catalog ctes name aliased = .ok source) : Q source := by
  unfold Source.named at read
  dsimp only at read
  cases found : ctes.find? fun cte => Text.sameName cte.1 name with
  | some cte =>
    rw [found] at read
    cases read
    exact keeps.result _ (known cte (List.mem_of_find?_eq_some found))
  | none =>
    rw [found] at read
    dsimp only at read
    split at read
    · cases read
    · cases given : catalog.columns? name with
      | none =>
        rw [given] at read
        cases read
      | some columns =>
        rw [given] at read
        cases read
        exact keeps.object _ given

end Sources

section Lookup

variable {scope : Scope}

theorem qualified (keeps : scope.catalog.Keeps P Q)
    (all : ∀ s ∈ scope.sources, ∀ column ∈ s.columns, P column) {table name : String}
    {column : ResultColumn} (found : scope.qualified table name = .ok column) : P column := by
  obtain ⟨source, named, ⟨_, rfl⟩ | ⟨_, own | ⟨_, row⟩⟩⟩ := Scope.qualified_eq_ok found
  · exact keeps.unknown name
  · exact all source (List.mem_of_find?_eq_some named) _ (List.mem_of_find?_eq_some own)
  · exact keeps.rowid rfl row

theorem unqualified (keeps : scope.catalog.Keeps P Q)
    (all : ∀ s ∈ scope.sources, ∀ column ∈ s.columns, P column) {name : String}
    {column : ResultColumn} (found : scope.unqualified name = .ok column) : P column := by
  obtain ⟨source, others, first⟩ | ⟨_, ⟨_, rfl⟩ | ⟨only, _, _, row⟩⟩ :=
    Scope.unqualified_eq_ok found
  · obtain ⟨inside, own, _⟩ := Scope.mem_candidates.mp (first ▸ List.mem_cons_self)
    exact all source inside column own
  · exact keeps.unknown name
  · exact keeps.rowid rfl row

theorem column (keeps : scope.catalog.Keeps P Q)
    (all : ∀ s ∈ scope.sources, ∀ column ∈ s.columns, P column) {ref : ColumnRef}
    {column : ResultColumn} (found : scope.column ref = .ok column) : P column := by
  unfold Scope.column at found
  cases qualifier : ref.table with
  | some table =>
    rw [qualifier] at found
    exact keeps.qualified all found
  | none =>
    rw [qualifier] at found
    exact keeps.unqualified all found

theorem star (all : ∀ s ∈ scope.sources, ∀ column ∈ s.columns, P column)
    {columns : List ResultColumn} (found : scope.star = .ok columns) :
    ∀ column ∈ columns, P column := by
  unfold Scope.star at found
  split at found
  · cases found
  · cases found
    intro column member
    obtain ⟨source, inside, member⟩ := List.mem_flatMap.mp member
    exact all source inside column (List.mem_filter.mp member).1

theorem starOf (all : ∀ s ∈ scope.sources, ∀ column ∈ s.columns, P column) {table : String}
    {columns : List ResultColumn} (found : scope.starOf table = .ok columns) :
    ∀ column ∈ columns, P column := by
  unfold Scope.starOf at found
  cases named : scope.source? table with
  | none =>
    rw [named] at found
    cases found
  | some source =>
    rw [named] at found
    cases found
    exact all source (List.mem_of_find?_eq_some named)

theorem item (keeps : scope.catalog.Keeps P Q)
    (all : ∀ s ∈ scope.sources, ∀ column ∈ s.columns, P column) (item : Item)
    {columns : List ResultColumn} (found : item.columnsIn scope = .ok columns) :
    ∀ column ∈ columns, P column := by
  unfold Item.columnsIn at found
  cases item with
  | star label path =>
    cases path with
    | nil => exact star all found
    | cons first rest => exact starOf all found
  | expr label e =>
    dsimp only at found
    cases plain : e.columnRef? with
    | none =>
      rw [plain] at found
      cases found
      exact List.forall_mem_singleton.mpr (keeps.computed _ _ _)
    | some ref =>
      rw [plain] at found
      obtain ⟨column, read, found⟩ := bind_eq_ok found
      have own := keeps.column all read
      cases label with
      | none =>
        cases found
        exact List.forall_mem_singleton.mpr own
      | some name =>
        cases found
        exact List.forall_mem_singleton.mpr (keeps.renamed name.text own)

theorem items (keeps : scope.catalog.Keeps P Q)
    (all : ∀ s ∈ scope.sources, ∀ column ∈ s.columns, P column) (items : List Item)
    {columns : List ResultColumn} (found : columnsOfItems items scope = .ok columns) :
    ∀ column ∈ columns, P column := by
  induction items generalizing columns with
  | nil =>
    rw [columnsOfItems] at found
    cases found
    exact nofun
  | cons first rest ih =>
    rw [columnsOfItems] at found
    obtain ⟨own, read, found⟩ := bind_eq_ok found
    obtain ⟨others, after, found⟩ := bind_eq_ok found
    cases found
    exact List.forall_mem_append.mpr ⟨keeps.item all first read, ih after⟩

theorem values (keeps : catalog.Keeps P Q) (row : List Expr) (scope : Scope) (number : Nat) :
    ∀ column ∈ valueColumns row scope number, P column := by
  induction row generalizing number with
  | nil => exact nofun
  | cons e rest ih =>
    rw [valueColumns]
    exact List.forall_mem_cons.mpr ⟨keeps.computed _ _ _, ih (number + 1)⟩

end Lookup

mutual

/-- With common table expressions of such columns a query has such columns. -/
theorem query (query : Query) (keeps : catalog.Keeps P Q) {ctes : Ctes}
    (known : ∀ cte ∈ ctes, ∀ column ∈ cte.2, P column) {allMembers : Bool}
    {columns : List ResultColumn} (found : query.columnsIn catalog ctes allMembers = .ok columns) :
    ∀ column ∈ columns, P column := by
  obtain ⟨_, list, body, _, _, _, _⟩ := query
  rw [Query.columnsIn] at found
  obtain ⟨more, defined, found⟩ := bind_eq_ok found
  exact Keeps.body body keeps (Keeps.ctes list keeps known defined) found
termination_by structural query

theorem ctes (list : List Cte) (keeps : catalog.Keeps P Q) {ctes more : Ctes}
    (known : ∀ cte ∈ ctes, ∀ column ∈ cte.2, P column)
    (defined : ctesOf list catalog ctes = .ok more) :
    ∀ cte ∈ more, ∀ column ∈ cte.2, P column := by
  cases list with
  | nil =>
    rw [ctesOf] at defined
    cases defined
    exact known
  | cons cte rest =>
    obtain ⟨name, names, query, _⟩ := cte
    rw [ctesOf] at defined
    obtain ⟨returned, read, defined⟩ := bind_eq_ok defined
    obtain ⟨named, renamed, defined⟩ := bind_eq_ok defined
    have own := keeps.renameAll (Keeps.query query keeps known read) renamed
    exact Keeps.ctes rest keeps (List.forall_mem_cons.mpr ⟨own, known⟩) defined
termination_by structural list

theorem body (body : Body) (keeps : catalog.Keeps P Q) {ctes : Ctes}
    (known : ∀ cte ∈ ctes, ∀ column ∈ cte.2, P column) {allMembers : Bool}
    {columns : List ResultColumn} (found : body.columnsIn catalog ctes allMembers = .ok columns) :
    ∀ column ∈ columns, P column := by
  cases body with
  | select select =>
    rw [Body.columnsIn] at found
    exact Keeps.select select keeps known found
  | query query =>
    rw [Body.columnsIn] at found
    exact Keeps.query query keeps known found
  | compound op quantifier left right =>
    rw [Body.columnsIn] at found
    obtain ⟨first, read, found⟩ := bind_eq_ok found
    have own := Keeps.body left keeps known read
    split at found
    · obtain ⟨other, read', merged⟩ := bind_eq_ok found
      exact keeps.mergeAll own (Keeps.body right keeps known read') merged
    · cases found
      exact own
  | values explicitRow rows =>
    unfold Body.columnsIn at found
    cases rows with
    | nil => cases found
    | cons row rest =>
      cases found
      exact keeps.values row _ _
  | table path | insert change | update change | store lead query =>
    unfold Body.columnsIn at found
    cases found
termination_by structural body

theorem select (select : Select) (keeps : catalog.Keeps P Q) {ctes : Ctes}
    (known : ∀ cte ∈ ctes, ∀ column ∈ cte.2, P column) {columns : List ResultColumn}
    (found : select.columnsIn catalog ctes = .ok columns) : ∀ column ∈ columns, P column := by
  obtain ⟨_, items, _, entries, _, _, _, _, _, _, _⟩ := select
  rw [Select.columnsIn] at found
  obtain ⟨sources, joined, found⟩ := bind_eq_ok found
  have own := Keeps.sources entries keeps known (List.forall_mem_nil _) joined
  refine @Keeps.items _ _ (.ofSources catalog ctes sources) keeps ?_ items _ found
  intro source member column inside
  obtain ⟨plain, there, rfl⟩ := List.mem_map.mp member
  obtain ⟨given, stored, rfl⟩ := List.mem_map.mp inside
  exact keeps.seen (own plain there) stored
termination_by structural select

theorem sources (entries : List Entry) (keeps : catalog.Keeps P Q) {ctes : Ctes}
    (known : ∀ cte ∈ ctes, ∀ column ∈ cte.2, P column) {before sources : List Source}
    (others : ∀ s ∈ before, Q s) (joined : sourcesOf entries catalog ctes before = .ok sources) :
    ∀ s ∈ sources, Q s := by
  cases entries with
  | nil =>
    rw [sourcesOf] at joined
    cases joined
    exact others
  | cons entry rest =>
    obtain ⟨_, link, factor, _, constraint⟩ := entry
    rw [sourcesOf] at joined
    obtain ⟨middle, first, joined⟩ := bind_eq_ok joined
    exact Keeps.sources rest keeps known (Keeps.factor factor keeps known others first) joined
termination_by structural entries

theorem factor (factor : Factor) (keeps : catalog.Keeps P Q) {ctes : Ctes}
    (known : ∀ cte ∈ ctes, ∀ column ∈ cte.2, P column) {side : Side} {constraint : Constraint}
    {before sources : List Source} (others : ∀ s ∈ before, Q s)
    (joined : factor.joinTo side constraint catalog ctes before = .ok sources) :
    ∀ s ∈ sources, Q s := by
  cases factor with
  | table name ordinality aliased hints =>
    obtain ⟨_, ⟨read⟩, rfl⟩ := Factor.reads_of_joinTo joined nofun
    exact keeps.join (keeps.named known read) others side constraint
  | derived lateral query aliased =>
    rw [Factor.joinTo] at joined
    obtain ⟨columns, read, joined⟩ := bind_eq_ok joined
    cases joined
    exact keeps.join (keeps.derived (Keeps.query query keeps known read) aliased) others _ _
  | nested first joins aliased =>
    rw [Factor.joinTo] at joined
    obtain ⟨middle, outer, joined⟩ := bind_eq_ok joined
    exact Keeps.sources joins keeps known (Keeps.factor first keeps known others outer) joined
  | call lateral name arguments ordinality aliased hints | tableOf e aliased
  | pivot inner pieces | phrase pieces =>
    obtain ⟨_, ⟨⟩, rfl⟩ := Factor.reads_of_joinTo joined nofun
    exact keeps.join (keeps.call _) others _ _
termination_by structural factor

end

theorem viewColumns (keeps : catalog.Keeps P Q) {view : View} {columns : List ResultColumn}
    (returned : catalog.viewColumns view = .ok columns) : ∀ column ∈ columns, P column := by
  obtain ⟨selected, ok, same, renamed⟩ := viewColumns_eq_ok returned
  have all := Keeps.query view.query keeps (List.forall_mem_nil _) ok
  cases named : view.explicitColumns with
  | nil => exact same named ▸ all
  | cons first rest =>
    rw [(renamed (by simp [named])).2]
    exact keeps.rename all _

/-- The columns that are kept of a view have what each result has. -/
theorem views (keeps : catalog.Keeps P Q) {items : List ScriptItem}
    (read : Catalog.ofScript items = .ok catalog) {key : String} {view : View}
    (found : catalog.views.get? key = some view) : ∀ column ∈ view.columns, P column := by
  obtain ⟨entered, run, resolve⟩ := bind_eq_ok read
  rw [mapError_eq_ok] at resolve
  have resolved := resolveViews_resolved resolve
  cases known : entered.views.get? key with
  | none =>
    rw [resolved.missing key known] at found
    cases found
  | some old =>
    by_cases isGrounded : Grounded entered.reads key
    · obtain ⟨columns, returned, stored⟩ := resolved.grounded key old trivial known isGrounded
      rw [stored] at found
      cases found
      exact keeps.viewColumns returned
    · rw [resolved.ungrounded key old trivial known isGrounded] at found
      cases found
      obtain none | ⟨item, _, made⟩ := view_entered run known
      · cases none
      · intro column member
        dsimp only at member
        rw [(Addition.ofItem_view made).1] at member
        cases member

end Catalog.Keeps

namespace Shape

variable {name : String}

theorem mem_of_returned {changed : Changed} {columns own : List ResultColumn} {item : Item}
    (made : returned name changed columns item = .ok own) : ∀ column ∈ own, column ∈ columns := by
  unfold returned at made
  split at made
  · cases made
    exact fun _ => id
  · split at made
    · cases made
      exact fun _ => id
    · cases made
  · cases made
  · split at made
    · cases made
    · split at made
      · cases made
      · split at made
        · rename_i column found
          cases made
          exact List.forall_mem_singleton.mpr (List.mem_of_find?_eq_some found)
        · cases made

theorem targetColumns_eq_ok {changed : Changed} {columns : List ResultColumn}
    (found : targetColumns catalog changed = .ok columns) :
    ∃ own, catalog.columns? changed.table = some own ∧ columns = own.map fun column => {
      column with
      tableAlias := some changed.reference
      aliasPath := [changed.reference] } := by
  unfold targetColumns at found
  split at found
  · cases found
  · rename_i own known
    exact ⟨own, known, (Except.ok.inj found).symm⟩

/-- A statement that changes a table returns columns of it. -/
theorem mem_of_returning {changed : Changed} {items : List Item} {columns : List ResultColumn}
    (made : returning catalog name changed items = .ok columns) :
    columns = [] ∨ ∃ own, targetColumns catalog changed = .ok own ∧
      ∀ column ∈ columns, column ∈ own := by
  unfold returning at made
  split at made
  · exact .inl (Except.ok.inj made).symm
  · obtain ⟨own, found, made⟩ := bind_eq_ok made
    obtain ⟨lists, each, made⟩ := bind_eq_ok made
    cases made
    refine .inr ⟨own, found, fun column member => ?_⟩
    obtain ⟨list, inside, member⟩ := List.mem_flatten.mp member
    obtain ⟨item, _, returned⟩ := exists_of_mem_right (mapM_eq_ok each) inside
    exact mem_of_returned returned column member

end Shape

/-- What a statement returns has the property. -/
theorem Catalog.Keeps.statement (keeps : catalog.Keeps P Q) {statement : Statement} {name : String}
    {shape : Shape} (made : Shape.ofStatement catalog name statement = .ok shape) :
    ∀ column ∈ shape.columns, P column := by
  have changes : ∀ {kind changed sources items},
      Shape.ofChange catalog name kind changed sources items = .ok shape →
        ∀ column ∈ shape.columns, P column := by
    intro kind changed sources items made
    obtain ⟨columns, read, made⟩ := bind_eq_ok made
    cases made
    obtain rfl | ⟨own, found, inside⟩ := Shape.mem_of_returning read
    · exact List.forall_mem_nil _
    · obtain ⟨declared, known, rfl⟩ := Shape.targetColumns_eq_ok found
      intro column member
      obtain ⟨plain, there, rfl⟩ := List.mem_map.mp (inside column member)
      exact keeps.target _ known plain there
  cases statement with
  | select query =>
    obtain ⟨columns, read, made⟩ := bind_eq_ok made
    cases made
    exact Keeps.query query keeps (List.forall_mem_nil _) (mapError_eq_ok.mp read)
  | insert ctes change => exact changes made
  | update ctes changed change => exact changes made
  | delete changed condition returning => exact changes made
  | createTable _ | createView _ | other _ => cases made

end TypedRows
