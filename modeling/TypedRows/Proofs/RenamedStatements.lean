import TypedRows.Proofs.RenamedCatalogs
import TypedRows.Proofs.RenamedParameters
import TypedRows.Proofs.StatementReads

/-! The types of a statement do not depend on the names of its common table expressions, nor on
those in the views it reads, as long as such a name is not that of a table or view. -/

namespace TypedRows

open Sql

variable {T : Tolerance}

/-- The same reference names, for names that differ as those of common table expressions may. -/
abbrev AliasesNear (T : Tolerance) : List (String × String) → List (String × String) → Prop :=
  List.Forall₂ fun x y => x.1 = y.1 ∧ T.cte x.2 y.2

theorem aliasPair_renamed {ρ : Renaming} {name name' : String} (read : ρ.Reads T name name')
    {aliased aliased' : Option Alias}
    (known : referenceName name aliased = referenceName name' aliased') :
    AliasesNear T [(referenceName name aliased, name)] [(referenceName name' aliased', name')] :=
  .cons ⟨known, read.close⟩ .nil

theorem Sql.Factor.aliasPairs_table (name : Path) (ordinality : Bool) (aliased : Option Alias)
    (hints : List Expr) : (Factor.table name ordinality aliased hints).aliasPairs =
      [(referenceName name.base aliased, name.base)] := by
  cases aliased <;> rfl

mutual

theorem Sql.Query.aliasPairs_renamed (query : Query) {query' : Query} {shown : Bool}
    {ρ σ : Renaming} (h : QueryRenamed T shown ρ σ query query') :
    AliasesNear T query.aliasPairs query'.aliasPairs := by
  obtain ⟨recursive, ctes, body, order, limit, offset, rest⟩ := query
  cases h with
  | intro _ _ _ bound inner _ _ _ =>
    rw [Query.aliasPairs, Query.aliasPairs]
    exact List.rel_append (aliasPairsOfCtes_renamed ctes bound) (body.aliasPairs_renamed inner)
termination_by structural query

theorem aliasPairsOfCtes_renamed (list : List Cte) {list' : List Cte} {ρ σ ρ' σ' : Renaming}
    (h : CtesRenamed T ρ σ list list' ρ' σ') :
    AliasesNear T (aliasPairsOfCtes list) (aliasPairsOfCtes list') := by
  cases list with
  | nil =>
    cases h
    exact .nil
  | cons cte rest =>
    obtain ⟨name, columns, query, source⟩ := cte
    cases h with
    | cons _ _ _ _ inner others =>
      rw [aliasPairsOfCtes, aliasPairsOfCtes]
      exact List.rel_append (query.aliasPairs_renamed inner) (aliasPairsOfCtes_renamed rest others)
termination_by structural list

theorem Sql.Body.aliasPairs_renamed (body : Body) {body' : Body} {shown : Bool}
    {ρ σ : Renaming} (h : BodyRenamed T shown ρ σ body body') :
    AliasesNear T body.aliasPairs body'.aliasPairs := by
  cases body with
  | select select =>
    cases h with
    | select inner => exact select.aliasPairs_renamed inner
  | query query =>
    cases h with
    | query inner => exact query.aliasPairs_renamed inner
  | compound op quantifier left right =>
    cases h with
    | compound _ _ first other =>
      rw [Body.aliasPairs, Body.aliasPairs]
      exact List.rel_append (left.aliasPairs_renamed first) (right.aliasPairs_renamed other)
  | values explicitRow rows =>
    cases h with
    | values _ _ _ => exact .nil
  | table path =>
    cases h with
    | table _ => exact .nil
  | insert change =>
    cases h with
    | insert _ => exact .nil
  | update change =>
    cases h with
    | update _ => exact .nil
  | store lead query =>
    cases h with
    | store _ _ => exact .nil
termination_by structural body

theorem Sql.Select.aliasPairs_renamed (select : Select) {select' : Select} {shown : Bool}
    {ρ : Renaming} (h : SelectRenamed T shown ρ select select') :
    AliasesNear T select.aliasPairs select'.aliasPairs := by
  obtain ⟨lead, items, into, entries, lateral, condition, groupByAll, groupBy, spread, having,
    windows⟩ := select
  cases h with
  | intro _ _ _ _ _ _ _ _ _ _ _ _ read _ _ _ => exact aliasPairsOfEntries_renamed entries read
termination_by structural select

theorem aliasPairsOfEntries_renamed (entries : List Entry) {entries' : List Entry} {ρ : Renaming}
    (h : EntriesRenamed T ρ entries entries') :
    AliasesNear T (aliasPairsOfEntries entries) (aliasPairsOfEntries entries') := by
  cases entries with
  | nil =>
    cases h
    exact .nil
  | cons entry rest =>
    obtain ⟨global, link, factor, nearest, constraint⟩ := entry
    cases h with
    | cons _ _ _ _ read _ others =>
      rw [aliasPairsOfEntries, aliasPairsOfEntries]
      exact List.rel_append (factor.aliasPairs_renamed read)
        (aliasPairsOfEntries_renamed rest others)
termination_by structural entries

theorem Sql.Factor.aliasPairs_renamed (factor : Factor) {factor' : Factor} {ρ : Renaming}
    (h : FactorRenamed T ρ factor factor') :
    AliasesNear T factor.aliasPairs factor'.aliasPairs := by
  cases factor with
  | table name ordinality aliased hints =>
    cases h with
    | table _ _ _ _ read known =>
      rw [Factor.aliasPairs_table, Factor.aliasPairs_table]
      exact aliasPair_renamed read known
  | call lateral name arguments ordinality aliased hints =>
    cases h with
    | call _ _ _ _ _ _ _ => exact .nil
  | derived lateral query aliased =>
    cases h with
    | derived _ _ inner =>
      cases aliased with
      | none => exact query.aliasPairs_renamed inner
      | some given => exact .cons ⟨rfl, T.cte_refl _⟩ (query.aliasPairs_renamed inner)
  | nested first joins aliased =>
    cases h with
    | nested _ outer others =>
      rw [Factor.aliasPairs, Factor.aliasPairs]
      exact List.rel_append (first.aliasPairs_renamed outer)
        (aliasPairsOfEntries_renamed joins others)
  | tableOf e aliased =>
    cases h with
    | tableOf _ _ _ => exact .nil
  | pivot inner pieces =>
    cases h with
    | pivot _ _ _ _ => exact .nil
  | phrase pieces =>
    cases h with
    | phrase _ _ => exact .nil
termination_by structural factor

end

theorem putNew_near {m n : OrderedMap String String} (h : AliasesNear T m.entries n.entries)
    (key : String) {name name' : String} (close : T.cte name name') :
    AliasesNear T (m.putNew key name).entries (n.putNew key name').entries := by
  rw [OrderedMap.putNew, OrderedMap.putNew, OrderedMap.contains, OrderedMap.contains]
  obtain ⟨none, none'⟩ | ⟨_, _, found, found', _⟩ := OrderedMap.get?_related h key
  · rw [none, none']
    exact OrderedMap.putEntry_related h key close
  · rw [found, found']
    exact h

theorem putAllNew_near {m n : OrderedMap String String} (h : AliasesNear T m.entries n.entries)
    {xs ys : List (String × String)} (pairs : AliasesNear T xs ys) :
    AliasesNear T (m.putAllNew xs).entries (n.putAllNew ys).entries := by
  induction pairs generalizing m n with
  | nil => exact h
  | @cons x y _ _ pair _ ih =>
    rw [OrderedMap.putAllNew, OrderedMap.putAllNew, List.foldl_cons, List.foldl_cons, pair.1]
    exact ih (putNew_near h _ pair.2)

theorem Sql.Query.aliases_renamed {query query' : Query} {shown : Bool} {ρ σ : Renaming}
    (h : QueryRenamed T shown ρ σ query query') :
    AliasesNear T query.aliases.entries query'.aliases.entries :=
  putAllNew_near .nil (query.aliasPairs_renamed h)

theorem tableNamesOfEntries_renamed {entries entries' : List Entry} {ρ : Renaming}
    (h : EntriesRenamed T ρ entries entries') :
    List.Forall₂ T.cte (entries.filterMap fun entry => entry.factor.tableName?)
      (entries'.filterMap fun entry => entry.factor.tableName?) := by
  induction entries generalizing entries' with
  | nil =>
    cases h
    exact .nil
  | cons entry rest ih =>
    cases h with
    | cons _ _ _ _ read _ others =>
      cases read with
      | table _ _ _ _ reads _ =>
        exact .cons reads.close (ih others)
      | _ =>
        rw [List.filterMap_cons_none rfl, List.filterMap_cons_none rfl]
        exact ih others

mutual

theorem Sql.Query.firstSelect?_renamed (query : Query) {query' : Query} {shown : Bool}
    {ρ σ : Renaming} (h : QueryRenamed T shown ρ σ query query') :
    List.Forall₂ T.cte (tableNames query.firstSelect?) (tableNames query'.firstSelect?) := by
  obtain ⟨recursive, ctes, body, order, limit, offset, rest⟩ := query
  cases h with
  | intro _ _ _ _ inner _ _ _ => exact body.firstSelect?_renamed inner
termination_by structural query

theorem Sql.Body.firstSelect?_renamed (body : Body) {body' : Body} {shown : Bool}
    {ρ σ : Renaming} (h : BodyRenamed T shown ρ σ body body') :
    List.Forall₂ T.cte (tableNames body.firstSelect?) (tableNames body'.firstSelect?) := by
  cases body with
  | select select =>
    cases h with
    | select inner =>
      cases inner with
      | intro _ _ _ _ _ _ _ _ _ _ _ _ read _ _ _ => exact tableNamesOfEntries_renamed read
  | query query =>
    cases h with
    | query inner => exact query.firstSelect?_renamed inner
  | compound op quantifier left right =>
    cases h with
    | compound _ _ first _ =>
      rw [Body.firstSelect?, Body.firstSelect?]
      exact left.firstSelect?_renamed first
  | values explicitRow rows =>
    cases h with
    | values _ _ _ => exact .nil
  | table path =>
    cases h with
    | table _ => exact .nil
  | insert change =>
    cases h with
    | insert _ => exact .nil
  | update change =>
    cases h with
    | update _ => exact .nil
  | store lead query =>
    cases h with
    | store _ _ => exact .nil
termination_by structural body

end

namespace Catalog.Near

variable {a b : Catalog}

theorem column? (h : a.Near T b) (apart : a.Apart T) {object object' : String}
    (close : T.cte object object') (column : String) :
    (a.column? object column = none ∧ b.column? object' column = none) ∨
      object = object' ∧ ∃ c d, a.column? object column = some c ∧
        b.column? object' column = some d ∧ c.Near T true d := by
  have unknown : ∀ (catalog : Catalog) n, catalog.contains n = false →
      catalog.column? n column = none := by
    intro catalog n nothing
    obtain ⟨table, view⟩ := Bool.or_eq_false_iff.mp nothing
    rw [Option.isSome_eq_false_iff, Option.isNone_iff_eq_none] at table view
    rw [Catalog.column?, Catalog.columns?, table, view]
    rfl
  obtain rfl | ⟨nothing, nothing'⟩ := apart object object' close
  · rw [Catalog.column?, Catalog.column?]
    obtain ⟨none, none'⟩ | ⟨xs, ys, found, found', columns⟩ := h.columns? object
    · rw [none, none']
      exact .inl ⟨rfl, rfl⟩
    · rw [found, found']
      have asked : ∀ c d, ResultColumn.Near T true c d →
          Text.sameName c.name column = Text.sameName d.name column :=
        fun c d related => by rw [related.name rfl]
      obtain none | ⟨c, d, one, other, related⟩ := find?_related columns asked
      · exact .inl none
      · exact .inr ⟨rfl, c, d, one, other, related⟩
  · rw [h.contains] at nothing'
    exact .inl ⟨unknown a object nothing, unknown b object' nothing'⟩

theorem refl (catalog : Catalog) : catalog.Near T catalog where
  tables := List.forall₂_same.mpr fun _ _ => ⟨rfl, rfl, List.forall₂_same.mpr fun _ _ =>
    ⟨rfl, rfl, T.flag_refl _, rfl, rfl⟩, rfl, rfl, rfl⟩
  views := List.forall₂_same.mpr fun view _ => ⟨rfl, rfl,
    view.2.query.renamed_refl true Renaming.still_nil Renaming.still_nil, rfl,
    List.forall₂_same.mpr fun _ _ => .refl _, rfl, rfl, rfl⟩

/-- Annotations are inherited as before. -/
theorem inheritance (h : a.Near T b) : Inheritance.ofCatalog a = Inheritance.ofCatalog b := by
  have tables : a.tables.values.map (fun table => (table.name, Inheritance.ofTable table)) =
      b.tables.values.map fun table => (table.name, Inheritance.ofTable table) := by
    rw [OrderedMap.values, OrderedMap.values, List.map_map, List.map_map]
    refine map_eq_of_related h.tables fun _ _ related => ?_
    dsimp only [Function.comp_apply]
    rw [Inheritance.ofTable, Inheritance.ofTable, related.2.name, related.2.fieldAnnotations]
  have origins : ∀ {xs ys : List ResultColumn}, List.Forall₂ (ResultColumn.Near T true) xs ys →
      (xs.filterMap fun c => c.origin.map fun origin =>
        (c.name, (⟨origin, c.joinedNullable⟩ : Inherited))) =
      ys.filterMap fun c => c.origin.map fun origin => (c.name, ⟨origin, c.joinedNullable⟩) := by
    intro xs ys columns
    induction columns with
    | nil => rfl
    | cons first _ ih =>
      rw [List.filterMap_cons, List.filterMap_cons, ih, first.name rfl, first.origin,
        first.joinedNullable]
  have views : a.views.values.map (fun view => (view.name, Inheritance.ofView view)) =
      b.views.values.map fun view => (view.name, Inheritance.ofView view) := by
    rw [OrderedMap.values, OrderedMap.values, List.map_map, List.map_map]
    refine map_eq_of_related h.views fun _ _ related => ?_
    dsimp only [Function.comp_apply]
    rw [Inheritance.ofView, Inheritance.ofView, related.2.name, related.2.fieldAnnotations,
      origins related.2.columns]
  rw [Inheritance.ofCatalog, Inheritance.ofCatalog, tables, views]

end Catalog.Near

/-- What the shapes of two statements have in common. -/
structure Shape.Near (T : Tolerance) (s t : Shape) : Prop where
  kind : s.kind = t.kind
  columns : List.Forall₂ (ResultColumn.Near T true) s.columns t.columns
  aliases : AliasesNear T s.aliases.entries t.aliases.entries
  target : s.target = t.target
  views : s.views = t.views

theorem directViews_renamed {a b : Catalog} (h : a.Near T b) (apart : a.Apart T)
    {query query' : Query} {shown : Bool} {ρ σ : Renaming}
    (renamed : QueryRenamed T shown ρ σ query query') :
    Shape.directViews a query = Shape.directViews b query' := by
  have views : ∀ name, (a.view? name).isSome = (b.view? name).isSome :=
    fun name => congrFun h.contains_views (Text.foldLower name)
  rw [Shape.directViews_eq, Shape.directViews_eq,
    filter_apart apart (query.firstSelect?_renamed renamed), funext views]

theorem Shape.ofSelect_renamed {a b : Catalog} (h : a.Near T b) (apart : a.Apart T)
    {query query' : Query} (renamed : QueryRenamed T true [] [] query query') :
    Alongside T.Failure (Shape.Near T) (ofSelect a query) (ofSelect b query') := by
  have selected := (h.select renamed).mapError (F := T.Failure) (f := .resolve) (g := .resolve)
    fun e d related => .inr ⟨e, d, rfl, rfl, related⟩
  exact selected.bind fun _ _ columns =>
    .ok ⟨rfl, columns, Query.aliases_renamed renamed, rfl, directViews_renamed h apart renamed⟩

namespace Parameter

/-- The names stand for the same but for common table expressions. -/
structure Names.Near (T : Tolerance) (names names' : Names) : Prop where
  aliases : AliasesNear T names.aliases.entries names'.aliases.entries
  target : names.target = names'.target

theorem met?_near {a b : Catalog} (h : a.Near T b) (apart : a.Apart T) {names names' : Names}
    (near : names.Near T names') (ref : ColumnRef) :
    (met? names a ref = none ∧ met? names' b ref = none) ∨
      ∃ object c d, met? names a ref = some (object, c) ∧ met? names' b ref = some (object, d) ∧
        c.Near T true d := by
  have objects : (names.object? a ref = none ∧ names'.object? b ref = none) ∨
      ∃ n m, names.object? a ref = some n ∧ names'.object? b ref = some m ∧ T.cte n m := by
    rw [Names.object?, Names.object?]
    cases ref.table with
    | some table =>
      obtain ⟨none, none'⟩ | ⟨x, y, found, found', related⟩ := find?_related near.aliases
        (p := fun entry => Text.sameName entry.1 table)
        (q := fun entry => Text.sameName entry.1 table) fun _ _ related => by rw [related.1]
      · dsimp only
        rw [none, none']
        exact .inl ⟨rfl, rfl⟩
      · dsimp only
        rw [found, found']
        exact .inr ⟨_, _, rfl, rfl, related.2⟩
    | none =>
      have values : List.Forall₂ T.cte (names.target.toList ++ names.aliases.values)
          (names'.target.toList ++ names'.aliases.values) := by
        rw [near.target]
        refine List.rel_append (List.forall₂_same.mpr fun _ _ => T.cte_refl _) ?_
        rw [OrderedMap.values, OrderedMap.values, List.forall₂_map_left_iff,
          List.forall₂_map_right_iff]
        exact near.aliases.imp fun _ _ related => related.2
      refine find?_related values fun n m close => ?_
      obtain ⟨none, none'⟩ | ⟨_, c, d, one, other, _⟩ := h.column? apart close ref.column
      · rw [none, none']
      · rw [one, other]
        rfl
  rw [met?, met?]
  obtain ⟨none, none'⟩ | ⟨n, m, found, found', close⟩ := objects
  · rw [none, none']
    exact .inl ⟨rfl, rfl⟩
  · rw [found, found', Option.bind_some, Option.bind_some]
    obtain ⟨none, none'⟩ | ⟨rfl, c, d, one, other, related⟩ := h.column? apart close ref.column
    · rw [none, none']
      exact .inl ⟨rfl, rfl⟩
    · rw [one, other]
      exact .inr ⟨n, c, d, rfl, rfl, related⟩

end Parameter

/-- The errors differ in names of common table expressions at most. -/
inductive ResolveError.Renamed (cte : String → String → Prop) : ResolveError → ResolveError → Prop
  | same (e : ResolveError) : Renamed cte e e
  | cteColumns {name name' : String} (close : cte name name') (named returned : Nat) :
      Renamed cte (.cteColumns name named returned) (.cteColumns name' named returned)
  | view {e e' : ResolveError} (cause : Renamed cte e e') (name : String) :
      Renamed cte (.view name e) (.view name e')

/-- Names of common table expressions may become others that are apart too, and with them the texts
of computed columns; nothing else differs. -/
def Tolerance.renaming (apart : String → Prop) : Tolerance where
  flag := Eq
  text _ _ := True
  cte name name' := name = name' ∨ apart name ∧ apart name'
  error := ResolveError.Renamed fun name name' => name = name' ∨ apart name ∧ apart name'
  flag_refl _ := rfl
  flag_and same same' := by rw [same, same']
  flag_or same same' := by rw [same, same']
  text_refl _ := trivial
  cte_refl _ := .inl rfl
  error_refl := .same
  error_cte close := .cteColumns close
  error_view cause := .view cause

variable {apart : String → Prop}

theorem ResultColumn.Near.withoutText {a b : ResultColumn} (h : a.Near (.renaming apart) true b) :
    a.withoutText = b.withoutText := by
  obtain ⟨name, tableAlias, aliasPath, origin, sqlType, notNull, declared, joinedNullable,
    expression⟩ := h
  have text : ∀ {x y : Option String}, Option.Rel (Tolerance.renaming apart).text x y →
      x.map (fun _ => "") = y.map fun _ => "" := by
    intro x y related
    cases related <;> rfl
  change a.notNull = b.notNull at notNull
  change a.declaredNotNull = b.declaredNotNull at declared
  rw [ResultColumn.withoutText, ResultColumn.withoutText, name rfl, tableAlias, aliasPath, origin,
    sqlType, notNull, declared, joinedNullable, text (expression rfl)]

/-- The same `SELECT` statement under other names of its common table expressions. -/
structure Sql.ScriptItem.Renamed (apart : String → Prop) (item item' : ScriptItem) : Prop where
  comments : item.comments = item'.comments
  parameters : item.parameters = item'.parameters
  query : ∃ query query', item.statement = .select query ∧ item'.statement = .select query' ∧
    QueryRenamed (.renaming apart) true [] [] query query'

namespace Parameter

variable {a b : Catalog} {names names' : Names}

theorem ofColumn_renamed (h : a.Near (.renaming apart) b) (apart' : a.Apart (.renaming apart))
    (near : names.Near (.renaming apart) names') (types : TypeMap) (name : String) (ref : ColumnRef)
    (assigned : Bool) : ofColumn (.ofCatalog a types) names name ref assigned =
      ofColumn (.ofCatalog b types) names' name ref assigned := by
  have inheritance : (Context.ofCatalog a types).inheritance =
      (Context.ofCatalog b types).inheritance := h.inheritance
  rw [ofColumn_eq, ofColumn_eq, inheritance]
  obtain ⟨none, none'⟩ | ⟨object, c, d, found, found', column⟩ := met?_near h apart' near ref
  · rw [show (Context.ofCatalog a types).catalog = a from rfl, none,
      show (Context.ofCatalog b types).catalog = b from rfl, none']
  · rw [show (Context.ofCatalog a types).catalog = a from rfl, found,
      show (Context.ofCatalog b types).catalog = b from rfl, found']
    dsimp only
    rw [column.sqlType, column.name rfl, show c.notNull = d.notNull from column.notNull]
    rfl

theorem all_renamed (h : a.Near (.renaming apart) b) (apart' : a.Apart (.renaming apart))
    (near : names.Near (.renaming apart) names') (types : TypeMap) {item item' : ScriptItem}
    (renamed : item.Renamed apart item') :
    all (.ofCatalog a types) names item = all (.ofCatalog b types) names' item' := by
  have hint : ∀ name hint, ofHint (.ofCatalog a types) names name hint =
      ofHint (.ofCatalog b types) names' name hint := by
    intro name hint
    match hint with
    | some (.column ref assigned) => exact ofColumn_renamed h apart' near types name ref _
    | some .limit => rfl
    | none => rfl
  obtain ⟨query, query', select, select', queries⟩ := renamed.query
  rw [all, all, renamed.parameters, select, select', Statement.casts_renamed queries,
    Statement.hints_renamed queries]
  refine congrArg (List.mapM · _) (funext fun name => ?_)
  rw [infer, infer, hint]
  rfl

end Parameter

/-- A mapping to another source takes the same columns. -/
theorem Mapping.isSourceOf_renamed {mapping : Mapping}
    (other : ∀ name, apart name → Text.sameName name mapping.sourceTable = false)
    {aliases aliases' : OrderedMap String String}
    (h : AliasesNear (.renaming apart) aliases.entries aliases'.entries) (field : Field) :
    mapping.isSourceOf aliases field = mapping.isSourceOf aliases' field := by
  rw [Mapping.isSourceOf, Mapping.isSourceOf]
  cases field.source.tableAlias with
  | none => rfl
  | some tableAlias =>
    have entries : (aliases.entries.any fun entry => Text.sameName entry.1 tableAlias &&
        Text.sameName entry.2 mapping.sourceTable) =
        aliases'.entries.any fun entry => Text.sameName entry.1 tableAlias &&
          Text.sameName entry.2 mapping.sourceTable := by
      refine any_eq_of_related h fun x y ⟨key, close⟩ => ?_
      rw [key]
      obtain same | ⟨one, two⟩ := close
      · rw [same]
      · rw [other x.2 one, other y.2 two]
    dsimp only
    rw [entries]

namespace TypedStatement

/-- No mapping in force in the statement names one of the names as its source. -/
def Unmapped (names : String → Prop) (context : Context) (place : Place) (item : ScriptItem) :
    Prop :=
  ∀ shape overrides fields,
    Shape.ofStatement context.catalog place.name item.statement = .ok shape →
    draft context place.name item.comments shape.columns shape.views = .ok (overrides, fields) →
    ∀ field ∈ fields, ∀ mapping ∈ field.overrides.mapping, ∀ name, names name →
      Text.sameName name mapping.sourceTable = false

/-- The statements are the same but for their texts, the texts of computed columns, and names of
common table expressions. -/
structure Renamed (apart : String → Prop) (s t : TypedStatement) : Prop where
  same : { s.withoutText with sql := t.sql, aliases := t.aliases } = t.withoutText
  aliases : AliasesNear (.renaming apart) s.aliases.entries t.aliases.entries

theorem finish_renamed {a b : Catalog} (h : a.Near (.renaming apart) b)
    (apart' : a.Apart (.renaming apart)) (types : TypeMap) (place : Place)
    {item item' : ScriptItem} (renamed : item.Renamed apart item') {shape shape' : Shape}
    (shapes : shape.Near (.renaming apart) shape') (overrides : StatementOverrides)
    {fields fields' : List Field}
    (same : fields.map Field.withoutText = fields'.map Field.withoutText)
    (unmapped : ∀ field ∈ fields, ∀ mapping ∈ field.overrides.mapping, ∀ name, apart name →
      Text.sameName name mapping.sourceTable = false) :
    Together (Renamed apart) (finish (.ofCatalog a types) place item shape (overrides, fields))
      (finish (.ofCatalog b types) place item' shape' (overrides, fields')) := by
  have nested : NestedField.ofFields overrides fields shape.aliases =
      NestedField.ofFields overrides fields' shape'.aliases := by
    rw [← NestedField.ofFields_withoutText overrides fields', ← same,
      NestedField.ofFields_withoutText]
    exact NestedField.ofFields_congr (fun field member mapping mapped =>
      Mapping.isSourceOf_renamed (unmapped field member mapping mapped) shapes.aliases) overrides
  have settled : ∀ nested, (fields.map (settle nested)).map Field.withoutText =
      (fields'.map (settle nested)).map Field.withoutText := by
    intro nested
    rw [map_settle_withoutText, map_settle_withoutText, same]
  have names : Parameter.Names.Near (.renaming apart) ⟨shape.aliases, shape.target⟩
      ⟨shape'.aliases, shape'.target⟩ := ⟨shapes.aliases, shapes.target⟩
  rw [finish, finish, nested,
    Parameter.all_renamed h apart' names types renamed]
  refine .bind_same fun folded => .bind_same fun inferred => .ok ⟨?_, shapes.aliases⟩
  rw [withoutText, withoutText, settled, shapes.kind, renamed.parameters, shapes.target]

/-- Both drafts are the same up to the texts of computed columns. -/
theorem draft_near {a b : Catalog} (h : a.Near (.renaming apart) b) (types : TypeMap)
    (statement : String) (comments : List String) {shape shape' : Shape}
    (shapes : shape.Near (.renaming apart) shape') :
    Together (fun d d' => d.1 = d'.1 ∧ d.2.map Field.withoutText = d'.2.map Field.withoutText)
      (draft (.ofCatalog a types) statement comments shape.columns shape.views)
      (draft (.ofCatalog b types) statement comments shape'.columns shape'.views) := by
  have inheritance : (Context.ofCatalog a types).inheritance =
      (Context.ofCatalog b types).inheritance := h.inheritance
  have columns : shape.columns.map ResultColumn.withoutText =
      shape'.columns.map ResultColumn.withoutText :=
    map_eq_of_related shapes.columns fun _ _ column => column.withoutText
  have inherits : ∀ column, Field.inherited (.ofCatalog a types) column =
      Field.inherited (.ofCatalog b types) column := by
    intro column
    unfold Field.inherited
    rw [inheritance]
  have unmoved := @draft_congr (.ofCatalog a types) (.ofCatalog b types) rfl
    (shape'.columns.map ResultColumn.withoutText) shape'.views (fun column _ => inherits column)
    (fun _ _ => by rw [inheritance]) statement comments
  have drafts : Together Eq
      (Prod.map id (List.map Field.withoutText) <$>
        draft (.ofCatalog a types) statement comments shape.columns shape.views)
      (Prod.map id (List.map Field.withoutText) <$>
        draft (.ofCatalog b types) statement comments shape'.columns shape'.views) := by
    rw [← draft_withoutText, ← draft_withoutText, columns, shapes.views, unmoved]
    exact .refl (fun _ => rfl) _
  exact drafts.of_map.imp fun d d' same => Prod.mk.inj same

/-- Statements under other names of their common table expressions, against schemas that may have
been renamed too, both fail, or have the same types. -/
theorem analyse_near {a b : Catalog} (h : a.Near (.renaming apart) b)
    (apart' : a.Apart (.renaming apart)) (types : TypeMap) (place : Place)
    {item item' : ScriptItem} (renamed : item.Renamed apart item')
    (unmapped : Unmapped apart (.ofCatalog a types) place item) :
    Alongside (Tolerance.renaming apart).Failure (Renamed apart)
      (analyse (.ofCatalog a types) place item) (analyse (.ofCatalog b types) place item') := by
  have shapes : Alongside (Tolerance.renaming apart).Failure (Shape.Near (.renaming apart))
      (Shape.ofStatement a place.name item.statement)
      (Shape.ofStatement b place.name item'.statement) := by
    obtain ⟨query, query', select, select', queries⟩ := renamed.query
    rw [select, select']
    exact Shape.ofSelect_renamed h apart' queries
  rw [analyse_eq, analyse_eq]
  rw [show (Context.ofCatalog a types).catalog = a from rfl,
    show (Context.ofCatalog b types).catalog = b from rfl]
  obtain ⟨_, _, failed, failed', failure⟩ | ⟨shape, shape', made, made', near⟩ := shapes.cases
  · rw [failed, failed']
    exact .error failure
  rw [bind_of_ok made, bind_of_ok made']
  have drafts := draft_near h types place.name item.comments near
  rw [← renamed.comments]
  obtain ⟨e, failed, failed'⟩ | ⟨⟨overrides, fields⟩, ⟨_, fields'⟩, drafted, drafted', rfl, same⟩ :=
    drafts.cases
  · rw [failed, failed']
    exact .error (.inl rfl)
  · rw [bind_of_ok drafted, bind_of_ok drafted']
    exact .of_together (fun _ => .inl rfl) (finish_renamed h apart' types place renamed near
      overrides same (unmapped shape overrides fields made drafted))

/-- The names of common table expressions are bound. Columns are resolved alike under whatever
names. Where new and old names are those of no table or view, the catalog is the same, circles of
views included, and so are the types of each statement that maps no columns by such a name. -/
theorem analyse_renamed {items items' : List ScriptItem}
    (schema : List.Forall₂ (ScriptItem.Near (.renaming apart)) items items')
    (undeclared : ∀ name, apart name → Catalog.Undeclared items name) :
    Alongside (Tolerance.renaming apart).Failure
      (fun a b => a.Near (.renaming apart) b ∧
        (∀ names query query', QueryRenamed (.renaming names) true [] [] query query' →
          Alongside (Tolerance.renaming names).error
            (List.Forall₂ fun c d => c.withoutText = d.withoutText) (a.select query)
            (a.select query')) ∧
        ∀ types place item item', item.Renamed apart item' →
          Unmapped apart (.ofCatalog a types) place item →
          Alongside (Tolerance.renaming apart).Failure (Renamed apart)
            (analyse (.ofCatalog a types) place item) (analyse (.ofCatalog b types) place item'))
      (Catalog.ofScript items) (Catalog.ofScript items') := by
  have apartFrom : Catalog.ApartFrom (.renaming apart) items := fun n m close =>
    close.imp id fun ⟨one, other⟩ => ⟨undeclared n one, undeclared m other⟩
  obtain ⟨_, _, failed, failed', failure⟩ | ⟨a, b, read, read', near⟩ :=
    (Catalog.ofScript_near schema apartFrom).cases
  · rw [failed, failed']
    exact .error failure
  rw [read, read']
  refine .ok ⟨near, fun names query query' renamed => ?_, fun types place item item' renamed =>
    analyse_near near (Catalog.ApartFrom.apart_ofScript apartFrom read) types place renamed⟩
  exact ((Catalog.Near.refl a).select renamed).imp (fun _ _ => id) fun _ _ columns =>
    columns.imp fun _ _ column => column.withoutText

/-- `WITH cte AS (SELECT * FROM object) SELECT * FROM cte AS aliased` -/
def throughCte (cte object : String) (aliased : Option Alias) : Query :=
  ⟨false, [⟨⟨cte, none⟩, [], Catalog.selectAll object, none⟩],
    .select ⟨[], [.star none []], "", [⟨false, .comma, .table [⟨cte, none⟩] false aliased [], none,
      .none⟩], [], none, false, [], [], none, []⟩, [], none, none, []⟩

/-- A table, and a view of it through a common table expression. -/
def viewThroughCte (cte : String) (aliased : Option Alias) : List ScriptItem :=
  [⟨"", .createTable ⟨"t", [⟨"x", some "INTEGER", true, false, none⟩], false⟩, [], [], []⟩,
    ⟨"", .createView ⟨"v", [], throughCte cte "t" aliased⟩, [], [], []⟩]

/-- A statement that reads the view through another. -/
def selectThroughCte (cte : String) (aliased : Option Alias) : ScriptItem :=
  ⟨"", .select (throughCte cte "v" aliased), [], [], []⟩

theorem throughCte_renamed {cte cte' : String} (one : apart cte) (other : apart cte')
    (object : String) : QueryRenamed (.renaming apart) true [] [] (throughCte cte object none)
      (throughCte cte' object (some ⟨⟨cte, none⟩, []⟩)) := by
  have inner : QueryRenamed (.renaming apart) true [] [(cte, cte')] (Catalog.selectAll object)
      (Catalog.selectAll object) :=
    .intro _ _ _ .nil (.select (Select.renamed_refl _ _ Renaming.still_nil)) .nil .none .none
  have read : Renaming.Reads (.renaming apart) [(cte, cte')] cte cte' :=
    .here (Text.sameName_refl _) (Text.sameName_refl _) (.inr ⟨one, other⟩)
  exact .intro _ _ _ (.cons _ _ _ (.inr ⟨one, other⟩) inner .nil)
    (.select (.intro _ _ _ _ _ _ _ _ _ _ (.star _ _ .nil) (sameTitles_refl _ _)
      (.cons _ _ _ _ (.table _ _ _ _ read rfl) .none .nil) .none .nil .none)) .nil .none .none

/-- The names of the fields of a statement, if it has types and no mappings. -/
def plainFields (schema : List ScriptItem) (item : ScriptItem) : Option (List String) := do
  let catalog ← (Catalog.ofScript schema).toOption
  let shape ← (Shape.ofStatement catalog "q" item.statement).toOption
  let (_, fields) ← (draft (.ofCatalog catalog .initial) "q" item.comments shape.columns
    shape.views).toOption
  let statement ← (analyse (.ofCatalog catalog .initial) ⟨"q", "n", ""⟩ item).toOption
  if fields.all fun field => field.overrides.mapping.isNone then
    some (statement.fields.map Field.name)
  else none

theorem plainFields_eq_some {schema : List ScriptItem} {item : ScriptItem} {names : List String}
    (h : plainFields schema item = some names) : ∃ catalog statement,
      Catalog.ofScript schema = .ok catalog ∧
      analyse (.ofCatalog catalog .initial) ⟨"q", "n", ""⟩ item = .ok statement ∧
      statement.fields.map Field.name = names ∧
      ∀ apart, Unmapped apart (.ofCatalog catalog .initial) ⟨"q", "n", ""⟩ item := by
  obtain ⟨catalog, read, h⟩ := Option.bind_eq_some_iff.mp h
  obtain ⟨shape, made, h⟩ := Option.bind_eq_some_iff.mp h
  obtain ⟨⟨overrides, fields⟩, drafted, h⟩ := Option.bind_eq_some_iff.mp h
  obtain ⟨statement, analysed, h⟩ := Option.bind_eq_some_iff.mp h
  split at h
  · rename_i plain
    cases h
    refine ⟨catalog, statement, toOption_eq_some.mp read, toOption_eq_some.mp analysed, rfl, ?_⟩
    intro apart shape' overrides' fields' made' drafted' field member mapping mapped
    rw [show (Context.ofCatalog catalog .initial).catalog = catalog from rfl,
      toOption_eq_some.mp made] at made'
    cases made'
    rw [toOption_eq_some.mp drafted] at drafted'
    cases drafted'
    have unmapped := List.all_eq_true.mp plain field member
    rw [Option.mem_def.mp mapped] at unmapped
    cases unmapped
  · cases h

theorem analyse_renamed_throughCte :
    ∃ a b s t, Catalog.ofScript (viewThroughCte "c" none) = .ok a ∧
      Catalog.ofScript (viewThroughCte "d" (some ⟨⟨"c", none⟩, []⟩)) = .ok b ∧
      a.Near (.renaming (· ∈ ["c", "d"])) b ∧
      analyse (.ofCatalog a .initial) ⟨"q", "n", ""⟩ (selectThroughCte "c" none) = .ok s ∧
      analyse (.ofCatalog b .initial) ⟨"q", "n", ""⟩
        (selectThroughCte "d" (some ⟨⟨"c", none⟩, []⟩)) = .ok t ∧
      Renamed (· ∈ ["c", "d"]) s t ∧ s.fields.map Field.name = ["x"] := by
  have found : plainFields (viewThroughCte "c" none) (selectThroughCte "c" none) = some ["x"] := by
    decide +kernel
  obtain ⟨a, s, read, analysed, names, unmapped⟩ := plainFields_eq_some found
  have queries : ∀ object, QueryRenamed (.renaming (· ∈ ["c", "d"])) true [] []
      (throughCte "c" object none) (throughCte "d" object (some ⟨⟨"c", none⟩, []⟩)) :=
    throughCte_renamed (by decide) (by decide)
  have schema : List.Forall₂ (ScriptItem.Near (.renaming (· ∈ ["c", "d"])))
      (viewThroughCte "c" none) (viewThroughCte "d" (some ⟨⟨"c", none⟩, []⟩)) :=
    .cons ⟨rfl, .table rfl (.cons ⟨rfl, rfl, rfl, rfl, rfl⟩ .nil) rfl⟩
      (.cons ⟨rfl, .view rfl rfl (queries "t")⟩ .nil)
  have undeclared : ∀ name ∈ ["c", "d"], Catalog.Undeclared (viewThroughCte "c" none) name := by
    have each : ∀ name ∈ ["c", "d"], ∀ item ∈ viewThroughCte "c" none,
        ∀ own ∈ item.statement.declared?.toList, Text.sameName own name = false := by
      decide +kernel
    exact fun name member item given own declared =>
      each name member item given own (Option.mem_toList.mpr declared)
  obtain ⟨b, read', near, _, statements⟩ := (analyse_renamed schema undeclared).of_ok read
  have item : (selectThroughCte "c" none).Renamed (· ∈ ["c", "d"])
      (selectThroughCte "d" (some ⟨⟨"c", none⟩, []⟩)) := ⟨rfl, rfl, _, _, rfl, rfl, queries "v"⟩
  obtain ⟨t, analysed', renamed⟩ := (statements .initial ⟨"q", "n", ""⟩ _ _ item
    (unmapped _)).of_ok analysed
  exact ⟨a, b, s, t, read, read', near, analysed, analysed', renamed, names⟩

-- a view that reads a common table expression of its own name is taken to read itself
example : ((Catalog.ofScript (viewThroughCte "v" none)).toOption.bind fun catalog =>
    (catalog.view? "v").map View.cyclic) = some true := by
  decide +kernel

end TypedStatement

end TypedRows
